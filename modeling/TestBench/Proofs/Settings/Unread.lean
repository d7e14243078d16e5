/-
# Entries that no setting reads

Two settings that agree on the keys that are read, in their order, give the same preferences, whatever else
they have.  This stays so while a source is laid over the one, and over the other a source that has more:

| more | where | |
| --- | --- | --- |
| entries whose path does not begin with a section | anywhere | `extendsUnread_of_isNameChar` |
| entries with other keys than those that are read | in a table for a section | `extendsUnread_of_widens` |
| a table for a section, with no key that is read | where the section is given as nothing but tables | `extendsUnread_of_unread` |

Such additions may be made one after the other (`ExtendsUnread.trans`).

The relation is `Fields.Widens` for fields and `Value.Widens` for sections.  Laying over preserves it, since
what is read of the outcome depends on what is read of the two parts (`Fields.chosen_overlayFields`).  A
source with more entries is taken along step by step; an addition is a step that only one side takes
(`Related.addSource`).  What is added may be named as unknown, and nothing else comes of it
(`Preferences.ofSource_extends`).
-/

import TestBench.Proofs.Settings.Entries
import TestBench.Proofs.Settings.Merged

namespace TestBench
namespace Settings

namespace Fields

/-- What the outcome has under the keys comes from what is there under the keys. -/
theorem chosen_overlayFields (keys : List Text) (above : List (Text × Value)) (below : Fields) :
    Fields.chosen (Value.overlayFields above below) keys
      = Value.overlayFields (Fields.chosen above keys) (below.chosen keys) :=
  Value.filter_overlayFields keys.contains above below

theorem mem_keys_overlayFields {above : List (Text × Value)} {below : Fields} {key : Text} :
    key ∈ (Value.overlayFields above below).map Prod.fst
      ↔ key ∈ above.map Prod.fst ∨ key ∈ below.map Prod.fst := by
  induction above generalizing below with
  | nil => simp [Value.overlayFields]
  | cons entry rest ih =>
    obtain ⟨first, value⟩ := entry
    rw [Value.overlayFields, ih, Keyed.mem_keys_put, List.map_cons, List.mem_cons, or_left_comm, or_assoc]

/-- The second fields agree with the first on the keys, and have no fewer keys. -/
structure Widens (keys : List Text) (fields fields' : Fields) : Prop where
  chosen : fields.chosen keys = fields'.chosen keys
  subset : ∀ key ∈ fields.map Prod.fst, key ∈ fields'.map Prod.fst

namespace Widens

variable {keys : List Text} {fields fields' : Fields}

theorem refl (fields : Fields) : fields.Widens keys fields := ⟨rfl, fun _ => id⟩

theorem trans {fields'' : Fields} (h : fields.Widens keys fields') (h' : fields'.Widens keys fields'') :
    fields.Widens keys fields'' where
  chosen := h.chosen.trans h'.chosen
  subset key hkey := h'.subset key (h.subset key hkey)

/-- Fields under other keys are no less than nothing. -/
theorem of_unread (h : ∀ key ∈ fields.map Prod.fst, key ∉ keys) : Fields.Widens keys [] fields where
  chosen := by
    refine (List.filter_eq_nil_iff.2 fun entry hentry => ?_).symm
    rw [List.contains_iff_mem]
    exact h entry.1 (List.mem_map_of_mem hentry)
  subset _ := nofun

/-- Fields are read of neither or of both. -/
theorem unread (h : fields.Widens keys fields') (hunread : ∀ key ∈ fields.map Prod.fst, key ∉ keys) :
    ∀ key ∈ fields'.map Prod.fst, key ∉ keys := by
  have hnone : fields'.chosen keys = [] := h.chosen.symm.trans (of_unread hunread).chosen.symm
  intro key hkey hread
  obtain ⟨entry, hentry, rfl⟩ := List.mem_map.1 hkey
  exact List.filter_eq_nil_iff.1 hnone entry hentry (List.contains_iff_mem.2 hread)

theorem lookup (h : fields.Widens keys fields') {key : Text} (hkey : key ∈ keys) :
    fields.lookup key = fields'.lookup key := by
  rw [← lookup_chosen hkey, h.chosen, lookup_chosen hkey]

theorem others (h : fields.Widens keys fields') :
    ∀ key ∈ fields.others keys, key ∈ fields'.others keys := by
  intro key hkey
  rw [mem_others_iff] at hkey ⊢
  exact hkey.imp_left (h.subset key)

/-- Values may be put under a key on both sides; only under the keys do they have to be the same. -/
theorem put (h : fields.Widens keys fields') {key : Text} {value value' : Value}
    (hvalue : key ∈ keys → value = value') :
    Fields.Widens keys (Keyed.put key value fields) (Keyed.put key value' fields') where
  chosen := by
    rw [chosen_put, chosen_put, h.chosen]
    split_ifs with hkey
    · rw [hvalue hkey]
    · rfl
  subset other hother := Keyed.mem_keys_put.2 ((Keyed.mem_keys_put.1 hother).imp_right (h.subset other))

theorem overlayFields (h : fields.Widens keys fields') {above above' : Fields}
    (habove : above.Widens keys above') :
    Fields.Widens keys (Value.overlayFields above fields) (Value.overlayFields above' fields') where
  chosen := by rw [chosen_overlayFields, chosen_overlayFields, h.chosen, habove.chosen]
  subset key hkey :=
    mem_keys_overlayFields.2 ((mem_keys_overlayFields.1 hkey).imp (habove.subset key) (h.subset key))

end Widens
end Fields

namespace Value

/-- The second value is the first, or both are tables of which the second agrees with the first on the keys
and has no fewer. -/
inductive Widens (keys : List Text) : (value value' : Value) → Prop
  | same (value : Value) : Widens keys value value
  | table {origin origin' : Option Text} {fields fields' : Fields} (h : fields.Widens keys fields') :
      Widens keys (table origin fields) (table origin' fields')

namespace Widens

variable {keys : List Text} {value value' : Value}

theorem fields (h : value.Widens keys value') : value.fields.Widens keys value'.fields := by
  cases h with
  | same => exact .refl _
  | table h => exact h

theorem items (h : value.Widens keys value') :
    value.items = value'.items ∧ value.listOrigin? = value'.listOrigin? := by
  cases h with
  | same => exact ⟨rfl, rfl⟩
  | table => exact ⟨rfl, rfl⟩

/-- Laying a table over the one side, and a wider table over the other. -/
theorem overlay_table (h : value.Widens keys value') {above above' : Fields}
    (habove : above.Widens keys above') (origin origin' : Option Text) :
    ((Value.table origin above).overlay value).Widens keys ((Value.table origin' above').overlay value') := by
  simp only [Value.overlay]
  exact .table (h.fields.overlayFields habove)

theorem overlay (h : value.Widens keys value') (above : Value) :
    (above.overlay value).Widens keys (above.overlay value') := by
  cases above with
  | plain origin plain =>
    rw [Value.overlay, Value.overlay]
    exact .same _
  | list origin items =>
    rw [Value.overlay, Value.overlay]
    exact .same _
  | table origin fields => exact h.overlay_table (.refl fields) origin origin

/-- **The same change on both sides**, wherever the steps lead. -/
theorem changeAt (h : value.Widens keys value') (above : Value) (steps : List Step) :
    (value.changeAt above.overlay steps).Widens keys (value'.changeAt above.overlay steps) := by
  cases steps with
  | nil => exact h.overlay above
  | cons step steps =>
    cases step with
    | key name =>
      refine .table (h.fields.put fun hname => ?_)
      rw [h.fields.lookup hname]
    | item index =>
      obtain ⟨hitems, horigin⟩ := h.items
      simp only [Value.changeAt]
      rw [hitems, horigin]
      exact .same _

end Widens
end Value

/-- **A section with more entries than another** gives the same record. -/
theorem Section.read_of_widens {σ : Type} {name : Text} {slots : List (Slot σ)} {record record' : σ}
    {value value' : Value} {unknown : List Text} (h : value.Widens (slots.map Slot.key) value')
    (hread : Section.read name slots record value = .ok (record', unknown)) :
    ∃ unknown', Section.read name slots record value' = .ok (record', unknown') ∧
      ∀ key ∈ unknown, key ∈ unknown' := by
  cases h with
  | same => exact ⟨unknown, hread, fun _ => id⟩
  | @table origin origin' fields fields' h =>
    change Section.readFields slots fields record = .ok (record', unknown) at hread
    rw [Section.readFields_eq, h.chosen] at hread
    cases hchosen : Section.readFields slots (fields'.chosen (slots.map Slot.key)) record with
    | error err => rw [hchosen] at hread; exact nomatch hread
    | ok outcome =>
      rw [hchosen] at hread
      cases hread
      refine ⟨fields'.others (slots.map Slot.key), ?_, h.others⟩
      change Section.readFields slots fields' record = _
      rw [Section.readFields_eq, hchosen]
      rfl

/-! ### Sources with more entries -/

namespace Preferences

/-- The keys that are read in a section. -/
def settingKeys (section_ : Text) : List Text :=
  if section_ = runKey then [threadsKey, timeoutKey, failOnErrorKey]
  else [variantsDirKey, buildCommandKey, environmentKey]

/-- An entry gives a table where the name of the section leads, or a key of it. -/
def GivesTable (entry : Text × Value) : Prop :=
  match (KeyPath.ofKey entry.1).steps with
  | [] => ∃ origin fields, entry.2 = .table origin fields
  | .key _ :: _ => True
  | .item _ :: _ => False

/-- The entries for a section, and entries with more keys that are not among `keys`.  A table with none of
the keys may come in addition, but only where all entries give the section as a table. -/
inductive ExtendsSection (keys : List Text) (onlyTables : Prop) : (entries entries' : Fields) → Prop
  | nil : ExtendsSection keys onlyTables [] []
  | same {entries entries' : Fields} (entry : Text × Value)
      (hrest : ExtendsSection keys onlyTables entries entries') :
      ExtendsSection keys onlyTables (entry :: entries) (entry :: entries')
  | wider {key : Text} {origin origin' : Option Text} {fields fields' entries entries' : Fields}
      (hkey : (KeyPath.ofKey key).steps = []) (h : fields.Widens keys fields')
      (hrest : ExtendsSection keys onlyTables entries entries') :
      ExtendsSection keys onlyTables ((key, .table origin fields) :: entries)
        ((key, .table origin' fields') :: entries')
  | added {key : Text} {origin : Option Text} {fields entries entries' : Fields} (honly : onlyTables)
      (hkey : (KeyPath.ofKey key).steps = []) (h : ∀ key ∈ fields.map Prod.fst, key ∉ keys)
      (hrest : ExtendsSection keys onlyTables entries entries') :
      ExtendsSection keys onlyTables entries ((key, .table origin fields) :: entries')

/-- A source with more entries that no setting reads.  The entries for a section stay in their order, and
no first name goes away. -/
structure ExtendsUnread (source source' : Fields) : Prop where
  sections : ∀ name ∈ sectionKeys, ExtendsSection (settingKeys name)
    (∀ entry ∈ source.entriesOf name, GivesTable entry) (source.entriesOf name) (source'.entriesOf name)
  names : ∀ entry ∈ source, ∃ entry' ∈ source', (KeyPath.ofKey entry'.1).root = (KeyPath.ofKey entry.1).root

section Steps

variable {keys : List Text} {onlyTables onlyTables' : Prop} {entries entries' entries'' : Fields}

/-- Where all entries give a table, they do so with less. -/
theorem ExtendsSection.givesTable (h : ExtendsSection keys onlyTables entries entries')
    (htables : ∀ entry ∈ entries', GivesTable entry) : ∀ entry ∈ entries, GivesTable entry := by
  induction h with
  | nil => exact htables
  | same entry _ ih =>
    obtain ⟨hentry, hrest⟩ := List.forall_mem_cons.1 htables
    exact List.forall_mem_cons.2 ⟨hentry, ih hrest⟩
  | @wider key origin _ fields _ _ _ hkey _ _ ih =>
    have hentry : GivesTable (key, .table origin fields) := by
      rw [GivesTable, hkey]
      exact ⟨origin, fields, rfl⟩
    exact List.forall_mem_cons.2 ⟨hentry, ih (List.forall_mem_cons.1 htables).2⟩
  | added _ _ _ _ ih => exact ih (List.forall_mem_cons.1 htables).2

/-- **Additions may be made one after the other.** -/
theorem ExtendsSection.trans (h : ExtendsSection keys onlyTables entries entries')
    (h' : ExtendsSection keys onlyTables' entries' entries'') (honly : onlyTables' → onlyTables) :
    ExtendsSection keys onlyTables entries entries'' := by
  induction h' generalizing entries with
  | nil => exact h
  | same entry _ ih =>
    cases h with
    | same _ hrest => exact .same entry (ih hrest)
    | wider hkey hwider hrest => exact .wider hkey hwider (ih hrest)
    | added hadd hkey hunread hrest => exact .added hadd hkey hunread (ih hrest)
  | wider hkey hwider _ ih =>
    cases h with
    | same _ hrest => exact .wider hkey hwider (ih hrest)
    | wider _ hbefore hrest => exact .wider hkey (hbefore.trans hwider) (ih hrest)
    | added hadd _ hunread hrest => exact .added hadd hkey (hwider.unread hunread) (ih hrest)
  | added hadd hkey hunread _ ih => exact .added (honly hadd) hkey hunread (ih h)

theorem ExtendsUnread.trans {source source' source'' : Fields} (h : ExtendsUnread source source')
    (h' : ExtendsUnread source' source'') : ExtendsUnread source source'' where
  sections name hname := (h.sections name hname).trans (h'.sections name hname) (h.sections name hname).givesTable
  names entry hentry := by
    obtain ⟨entry', hentry', hroot⟩ := h.names entry hentry
    obtain ⟨entry'', hentry'', hroot'⟩ := h'.names entry' hentry'
    exact ⟨entry'', hentry'', hroot'.trans hroot⟩

end Steps

section Additions

variable {before behind fields fields' : Fields} {origin : Option Text} {name : Text}

theorem ExtendsSection.refl {keys : List Text} {onlyTables : Prop} (entries : Fields) :
    ExtendsSection keys onlyTables entries entries := by
  induction entries with
  | nil => exact .nil
  | cons entry _ ih => exact .same entry ih

theorem ExtendsSection.append {keys : List Text} {onlyTables : Prop} (common : Fields)
    {entries entries' : Fields} (h : ExtendsSection keys onlyTables entries entries') :
    ExtendsSection keys onlyTables (common ++ entries) (common ++ entries') := by
  induction common with
  | nil => exact h
  | cons entry _ ih => exact .same entry ih

/-- A section is called by a plain name. -/
theorem ofKey_of_mem_sectionKeys (hname : name ∈ sectionKeys) :
    KeyPath.ofKey name = { root := name, steps := [] } := by
  rcases List.mem_pair.1 hname with rfl | rfl
  · rfl
  · rfl

/-- **A key with a plain name** that is no section may be added anywhere, with any value. -/
theorem extendsUnread_of_isNameChar (hname : name ≠ []) (hplain : ∀ c ∈ name, KeyPath.isNameChar c = true)
    (hother : name ∉ sectionKeys) (value : Value) :
    ExtendsUnread (before ++ behind) (before ++ (name, value) :: behind) where
  sections section_ hsection := by
    have hne : name ≠ section_ := fun heq => hother (heq ▸ hsection)
    have hentries : Fields.entriesOf (before ++ (name, value) :: behind) section_
        = Fields.entriesOf (before ++ behind) section_ := by
      simp only [Fields.entriesOf, List.filter_append, List.filter_cons,
        KeyPath.ofKey_eq_of_isNameChar hname hplain, decide_eq_true_iff, if_neg hne]
    rw [hentries]
    exact .refl _
  names entry hentry := by
    refine ⟨entry, ?_, rfl⟩
    rcases List.mem_append.1 hentry with h | h
    · exact List.mem_append_left _ h
    · exact List.mem_append_right _ (List.mem_cons_of_mem _ h)

/-- **Keys of a section** that are not read may be added to a table of the section. -/
theorem extendsUnread_of_widens (hname : name ∈ sectionKeys)
    (h : fields.Widens (settingKeys name) fields') :
    ExtendsUnread (before ++ (name, .table origin fields) :: behind)
      (before ++ (name, .table origin fields') :: behind) where
  sections section_ hsection := by
    simp only [Fields.entriesOf, List.filter_append, List.filter_cons, ofKey_of_mem_sectionKeys hname,
      decide_eq_true_iff]
    refine .append _ ?_
    split_ifs with heq
    · have hsteps : (KeyPath.ofKey name).steps = [] := by rw [ofKey_of_mem_sectionKeys hname]
      exact .wider hsteps (heq ▸ h) (.refl _)
    · exact .refl _
  names entry hentry := by
    rcases List.mem_append.1 hentry with h | h
    · exact ⟨entry, List.mem_append_left _ h, rfl⟩
    · rcases List.mem_cons.1 h with rfl | h
      · exact ⟨_, List.mem_append_right _ List.mem_cons_self, rfl⟩
      · exact ⟨entry, List.mem_append_right _ (List.mem_cons_of_mem _ h), rfl⟩

/-- **A table of keys that are not read** may be added for a section that is given as nothing but tables. -/
theorem extendsUnread_of_unread (hname : name ∈ sectionKeys)
    (honly : ∀ entry ∈ Fields.entriesOf (before ++ behind) name, GivesTable entry)
    (h : ∀ key ∈ fields.map Prod.fst, key ∉ settingKeys name) :
    ExtendsUnread (before ++ behind) (before ++ (name, .table origin fields) :: behind) where
  sections section_ hsection := by
    have hroot := ofKey_of_mem_sectionKeys hname
    simp only [Fields.entriesOf, List.filter_append, List.filter_cons, hroot, decide_eq_true_iff]
    refine .append _ ?_
    split_ifs with heq
    · subst heq
      have hsteps : (KeyPath.ofKey name).steps = [] := by rw [hroot]
      refine .added ?_ hsteps h (.refl _)
      simpa only [Fields.entriesOf, List.filter_append] using honly
    · exact .refl _
  names entry hentry := by
    refine ⟨entry, ?_, rfl⟩
    rcases List.mem_append.1 hentry with h | h
    · exact List.mem_append_left _ h
    · exact List.mem_append_right _ (List.mem_cons_of_mem _ h)

end Additions

/-- A section over the defaults, and the section with more entries that are not read.  If all entries give
it as a table it is one. -/
structure Related (name : Text) (onlyTables : Prop) (settings settings' : Fields) : Prop where
  widens : ((settings.lookup name).getD .missing).Widens (settingKeys name)
    ((settings'.lookup name).getD .missing)
  table : onlyTables → ∃ origin fields, (settings.lookup name).getD .missing = .table origin fields

/-- Laying a table, or something under a key, over anything makes a table. -/
theorem exists_table_of_givesTable {entry : Text × Value} (h : GivesTable entry) (below : Value) :
    ∃ origin fields, below.changeAt entry.2.overlay (KeyPath.ofKey entry.1).steps = .table origin fields := by
  rw [GivesTable] at h
  generalize (KeyPath.ofKey entry.1).steps = steps at h ⊢
  rcases steps with _ | ⟨⟨name⟩ | ⟨index⟩, steps⟩
  · obtain ⟨origin, fields, heq⟩ := h
    rw [heq, Value.changeAt, Value.overlay]
    exact ⟨_, _, rfl⟩
  · exact ⟨_, _, rfl⟩
  · exact h.elim

namespace Related

variable {name : Text} {onlyTables : Prop} {settings settings' : Fields}

/-- One entry on both sides, which may have more on the second. -/
theorem addEntry (h : Related name onlyTables settings settings') {key : Text} {value value' : Value}
    (hroot : (KeyPath.ofKey key).root = name)
    (hvalue : value = value' ∨ (KeyPath.ofKey key).steps = [] ∧
      ∃ (origin origin' : Option Text) (fields fields' : Fields), fields.Widens (settingKeys name) fields' ∧
        value = .table origin fields ∧ value' = .table origin' fields')
    (htable : onlyTables → GivesTable (key, value)) :
    Related name onlyTables (settings.addEntry key value) (settings'.addEntry key value') where
  widens := by
    rw [Fields.lookup_addEntry, Fields.lookup_addEntry, if_pos hroot.symm, if_pos hroot.symm]
    rcases hvalue with rfl | ⟨hsteps, origin, origin', fields, fields', hfields, rfl, rfl⟩
    · exact h.widens.changeAt value _
    · rw [hsteps]
      exact h.widens.overlay_table hfields origin origin'
  table honly := by
    rw [Fields.lookup_addEntry, if_pos hroot.symm]
    exact exists_table_of_givesTable (htable honly) _

/-- A table of which nothing is read, on the second side only. -/
theorem addEntry_right (h : Related name onlyTables settings settings') {key : Text}
    {origin : Option Text} {fields : Fields} (hroot : (KeyPath.ofKey key).root = name)
    (hsteps : (KeyPath.ofKey key).steps = []) (honly : onlyTables)
    (hunread : ∀ key ∈ fields.map Prod.fst, key ∉ settingKeys name) :
    Related name onlyTables settings (settings'.addEntry key (.table origin fields)) where
  widens := by
    obtain ⟨origin', fields', heq⟩ := h.table honly
    have hwidens := h.widens
    rw [Fields.lookup_addEntry, if_pos hroot.symm, hsteps, heq]
    rw [heq] at hwidens
    have hfields := hwidens.fields.overlayFields (.of_unread hunread)
    simp only [Value.overlayFields] at hfields
    simp only [Option.getD_some, Value.changeAt, Value.overlay]
    exact .table hfields
  table := h.table

/-- **All entries for a section.** -/
theorem addSource (h : Related name onlyTables settings settings') {entries entries' : Fields}
    (hextends : ExtendsSection (settingKeys name) onlyTables entries entries')
    (hroot : ∀ entry ∈ entries', (KeyPath.ofKey entry.1).root = name)
    (htables : onlyTables → ∀ entry ∈ entries, GivesTable entry) :
    Related name onlyTables (settings.addSource entries) (settings'.addSource entries') := by
  -- Each constructor is a step that both sides take, or the second side alone.
  induction hextends generalizing settings settings' with
  | nil => exact h
  | same entry _ ih =>
    refine ih (h.addEntry (hroot _ List.mem_cons_self) (.inl rfl) fun honly =>
      htables honly _ List.mem_cons_self) ?_ ?_
    · exact fun entry hentry => hroot entry (List.mem_cons_of_mem _ hentry)
    · exact fun honly entry hentry => htables honly entry (List.mem_cons_of_mem _ hentry)
  | wider hkey hfields _ ih =>
    refine ih (h.addEntry (hroot _ List.mem_cons_self) (.inr ⟨hkey, _, _, _, _, hfields, rfl, rfl⟩)
      fun honly => htables honly _ List.mem_cons_self) ?_ ?_
    · exact fun entry hentry => hroot entry (List.mem_cons_of_mem _ hentry)
    · exact fun honly entry hentry => htables honly entry (List.mem_cons_of_mem _ hentry)
  | added honly hkey hunread _ ih =>
    refine ih (h.addEntry_right (hroot _ List.mem_cons_self) hkey honly hunread) ?_ htables
    exact fun entry hentry => hroot entry (List.mem_cons_of_mem _ hentry)

end Related

/-- What two sources make of a section, of which the second has more entries that are not read. -/
theorem ExtendsUnread.widens {source source' : Fields} (h : ExtendsUnread source source') {name : Text}
    (hname : name ∈ sectionKeys) :
    (((defaults.addSource source).lookup name).getD .missing).Widens (settingKeys name)
      (((defaults.addSource source').lookup name).getD .missing) := by
  have hstart : Related name (∀ entry ∈ source.entriesOf name, GivesTable entry) defaults defaults := by
    refine ⟨.same _, fun _ => ?_⟩
    rcases List.mem_pair.1 hname with rfl | rfl
    · exact ⟨_, _, rfl⟩
    · exact ⟨_, _, rfl⟩
  have hroot : ∀ entry ∈ source'.entriesOf name, (KeyPath.ofKey entry.1).root = name :=
    fun entry hentry => (Fields.mem_entriesOf_iff.1 hentry).2
  rw [Fields.lookup_addSource_entriesOf source rfl, Fields.lookup_addSource_entriesOf source' rfl]
  exact (hstart.addSource (h.sections name hname) hroot id).widens

variable {cpus : Nat} {unknown : List Text}

/-- A section on runs with more entries. -/
theorem readRun_of_widens {run run' : Value} {draft : RunDraft} (h : run.Widens (settingKeys runKey) run')
    (hread : readRun cpus run = .ok (draft, unknown)) :
    ∃ unknown', readRun cpus run' = .ok (draft, unknown') ∧ ∀ key ∈ unknown, key ∈ unknown' := by
  obtain ⟨hsection, hthreads⟩ := readRun_eq_ok_iff.1 hread
  have hkeys : settingKeys runKey = (runSlots cpus).map Slot.key := rfl
  obtain ⟨unknown', hread', hsubset⟩ := Section.read_of_widens (hkeys ▸ h) hsection
  exact ⟨unknown', readRun_eq_ok_iff.2 ⟨hread', hthreads⟩, hsubset⟩

/-- A section on sanitizers with more entries. -/
theorem readSanitizers_of_widens {sanitizers sanitizers' : Value} {draft : SanitizersDraft}
    (h : sanitizers.Widens (settingKeys sanitizersKey) sanitizers')
    (hread : readSanitizers sanitizers = .ok (draft, unknown)) :
    ∃ unknown', readSanitizers sanitizers' = .ok (draft, unknown') ∧ ∀ key ∈ unknown, key ∈ unknown' := by
  have hkeys : settingKeys sanitizersKey = sanitizersSlots.map Slot.key := rfl
  exact Section.read_of_widens (hkeys ▸ h) hread

theorem qualify_subset {section_ : Text} {keys keys' : List Text} (h : ∀ key ∈ keys, key ∈ keys') :
    ∀ name ∈ qualify section_ keys, name ∈ qualify section_ keys' := by
  intro name hname
  obtain ⟨key, hkey, rfl⟩ := List.mem_map.1 hname
  exact List.mem_map_of_mem (h key hkey)

/-- **Entries that no setting reads change no setting**; they may only be named as unknown. -/
theorem ofSource_extends {source source' : Fields} {preferences : Preferences}
    (h : ofSource cpus source = .ok (preferences, unknown)) (hextends : ExtendsUnread source source') :
    ∃ unknown', ofSource cpus source' = .ok (preferences, unknown') ∧ ∀ key ∈ unknown, key ∈ unknown' := by
  rw [ofSource, addSource_defaults] at h ⊢
  obtain ⟨run, sanitizers, hsections⟩ := exists_hasSections source
  obtain ⟨run', sanitizers', hsections'⟩ := exists_hasSections source'
  rw [addSource_defaults] at hsections hsections'
  have hrun := hextends.widens (by decide : runKey ∈ sectionKeys)
  have hsanitizers := hextends.widens (by decide : sanitizersKey ∈ sectionKeys)
  rw [hsections.lookup_run, hsections'.lookup_run] at hrun
  rw [hsections.lookup_sanitizers, hsections'.lookup_sanitizers] at hsanitizers
  obtain ⟨runDraft, runOthers, sanitizersDraft, sanitizersOthers, hreadRun, hreadSanitizers, rfl, rfl⟩ :=
    (ofFields_eq_ok_iff hsections).1 h
  obtain ⟨runOthers', hreadRun', hrunSubset⟩ := readRun_of_widens hrun hreadRun
  obtain ⟨sanitizersOthers', hreadSanitizers', hsanitizersSubset⟩ :=
    readSanitizers_of_widens hsanitizers hreadSanitizers
  refine ⟨_, (ofFields_eq_ok_iff hsections').2
    ⟨_, _, _, _, hreadRun', hreadSanitizers', rfl, rfl⟩, fun key hkey => ?_⟩
  rw [Text.mem_sortedSet, List.mem_append, List.mem_append] at hkey ⊢
  refine hkey.imp (Or.imp (qualify_subset hrunSubset key) (qualify_subset hsanitizersSubset key)) ?_
  intro hothers
  rw [Fields.mem_others_iff, Fields.mem_keys_addSource] at hothers ⊢
  refine hothers.imp_left (Or.imp_right ?_)
  rintro ⟨entry, hentry, rfl⟩
  exact hextends.names entry hentry

end Preferences
end Settings
end TestBench
