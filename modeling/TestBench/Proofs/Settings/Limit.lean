/-
# A limit given in the settings

A source sets a limit on the runs by an entry in its table on runs.  Set to the text of a duration it does this and
nothing else (`ofSource_limit`):

| source | with the limit set |
| --- | --- |
| with one table on runs | loads if it loads with another limit or without one |
| without any entry on runs | loads if it loads without the table that holds nothing but the limit |

The preferences are the same but for the limit, and so are the keys that mean nothing.  A section is read slot by slot,
so that it can be read if each of its entries can (`Section.exists_readFields`); the entries for other keys than the
limit are the same on both sides (`Fields.beside`), before the source is laid over the defaults and after it.

In a file the text of a duration stands between quotes as it is (`parse?_limitText`).
-/

import TestBench.Proofs.Duration.Written
import TestBench.Proofs.Settings.Loading
import TestBench.Proofs.Text.Order
import TestBench.Proofs.Toml.Strings

namespace TestBench
namespace Settings

/-! ### Reading with another value under one key -/

/-- The fields under all keys but one. -/
def Fields.beside (fields : Fields) (key : Text) : Fields := fields.filter fun entry => decide (entry.1 ≠ key)

/-- The entries of a source whose paths begin with other names. -/
def Fields.elsewhere (source : Fields) (name : Text) : Fields :=
  source.filter fun entry => decide ((KeyPath.ofKey entry.1).root ≠ name)

namespace Fields

variable {fields fields' : Fields} {key : Text}

theorem beside_overlayFields (above : List (Text × Value)) (below : Fields) (key : Text) :
    beside (Value.overlayFields above below) key = Value.overlayFields (beside above key) (below.beside key) :=
  Value.filter_overlayFields (fun other => decide (other ≠ key)) above below

theorem lookup_beside {other : Text} (h : other ≠ key) (fields : Fields) :
    (fields.beside key).lookup other = fields.lookup other := by
  exact @Keyed.lookup_filter Text Value _ _ (fun other => decide (other ≠ key)) other (decide_eq_true h) fields

/-- The keys that are not known do not depend on the fields under a known one. -/
theorem others_eq_of_beside (h : fields'.beside key = fields.beside key) {keys : List Text} (hkey : key ∈ keys) :
    fields'.others keys = fields.others keys := by
  have hbeside : ∀ fields : Fields, fields.others keys = (fields.beside key).others keys := by
    intro fields
    rw [others, others, beside, List.filter_filter]
    refine congrArg _ (List.filter_congr fun entry _ => ?_)
    by_cases hentry : entry.1 = key
    · simp [hentry, hkey]
    · simp [hentry]
  rw [hbeside fields, hbeside fields', h]

end Fields

theorem Settled.unique {α : Type} {read : Value → Except ReadError α} {byDefault setting setting' : α}
    {entry : Option Value} (h : Settled read byDefault entry setting) (h' : Settled read byDefault entry setting') :
    setting' = setting := by
  cases entry with
  | none => exact Eq.trans h' (Eq.symm h)
  | some value => exact Except.ok.inj ((Eq.symm h').trans h)

namespace Slot

variable {σ α : Type} {key : Text} {read : Value → Except ReadError α} {store : α → σ → σ} {value : Value}

/-- The slot reads the value, whatever was read before. -/
def Accepts (slot : Slot σ) (value : Value) : Prop := ∀ record, ∃ record', slot.read value record = .ok record'

/-- Whether the slot reads a value does not depend on what was read before. -/
def Steady (slot : Slot σ) : Prop :=
  ∀ value before after, slot.read value before = .ok after → slot.Accepts value

theorem accepts_of {a : α} (h : read value = .ok a) : (Slot.of key read store).Accepts value := by
  intro record
  refine ⟨store a record, ?_⟩
  change (read value).map (store · record) = _
  rw [h]
  rfl

theorem steady_of : (Slot.of key read store).Steady := by
  intro value before after h
  obtain ⟨a, hread, -⟩ := of_read h
  exact accepts_of hread

end Slot

namespace Section

variable {σ : Type} {slots : List (Slot σ)} {fields : Fields} {record record' : σ} {unknown : List Text}

/-- The keys that are named are those without a slot. -/
theorem unknown_of_readFields (h : readFields slots fields record = .ok (record', unknown)) :
    unknown = fields.others (slots.map Slot.key) := by
  rw [readFields_eq] at h
  cases hchosen : readFields slots (fields.chosen (slots.map Slot.key)) record with
  | error err =>
    rw [hchosen] at h
    cases h
  | ok outcome =>
    rw [hchosen] at h
    cases h
    rfl

/-- **Fields can be read if each slot can read its values.** -/
theorem exists_readFields (h : ∀ entry ∈ fields, ∀ slot ∈ slots, slot.key = entry.1 → slot.Accepts entry.2)
    (record : σ) : ∃ record', readFields slots fields record = .ok (record', fields.others (slots.map Slot.key)) := by
  have hread : ∃ outcome, readFields slots fields record = .ok outcome := by
    induction fields generalizing record with
    | nil => exact ⟨_, rfl⟩
    | cons entry rest ih =>
      obtain ⟨key, value⟩ := entry
      have hrest := ih fun entry hentry => h entry (List.mem_cons_of_mem _ hentry)
      cases hfind : slots.find? fun slot => slot.key = key with
      | none =>
        obtain ⟨outcome, houtcome⟩ := hrest record
        rw [readFields_cons_unknown hfind, houtcome]
        exact ⟨_, rfl⟩
      | some slot =>
        obtain ⟨hslot, hkey⟩ := mem_of_find? hfind
        obtain ⟨next, hnext⟩ := h (key, value) List.mem_cons_self slot hslot hkey record
        rw [readFields_cons_known hfind, hnext]
        exact hrest next
  obtain ⟨⟨record', unknown⟩, hread⟩ := hread
  exact ⟨record', unknown_of_readFields hread ▸ hread⟩

/-- And only then. -/
theorem accepts_of_readFields (hsteady : ∀ slot ∈ slots, slot.Steady) (hkeys : (slots.map Slot.key).Nodup)
    (h : readFields slots fields record = .ok (record', unknown)) :
    ∀ entry ∈ fields, ∀ slot ∈ slots, slot.key = entry.1 → slot.Accepts entry.2 := by
  induction fields generalizing record record' unknown with
  | nil => exact fun entry hentry => absurd hentry List.not_mem_nil
  | cons entry rest ih =>
    obtain ⟨key, value⟩ := entry
    rw [List.forall_mem_cons]
    cases hfind : slots.find? fun slot => slot.key = key with
    | none =>
      rw [readFields_cons_unknown hfind] at h
      refine ⟨fun slot hslot hkey => absurd (List.mem_map.2 ⟨slot, hslot, hkey⟩) (find?_eq_none_iff.1 hfind), ?_⟩
      cases hrest : readFields slots rest record with
      | error err =>
        rw [hrest] at h
        cases h
      | ok outcome =>
        obtain ⟨last, others⟩ := outcome
        exact ih hrest
    | some found =>
      obtain ⟨hfound, hfoundKey⟩ := mem_of_find? hfind
      rw [readFields_cons_known hfind] at h
      cases hread : found.read value record with
      | error err =>
        rw [hread] at h
        cases h
      | ok next =>
        rw [hread] at h
        refine ⟨fun slot hslot hkey => ?_, ih h⟩
        obtain rfl : slot = found := List.inj_on_of_nodup_map hkeys hslot hfound (hkey.trans hfoundKey.symm)
        exact hsteady slot hslot value record next hread

/-- The slots can read fields with another value under one key if they can read that value. -/
theorem accepts_of_beside {fields' : Fields} {key : Text} {value : Value} (hdistinct : (fields'.map Prod.fst).Nodup)
    (hbeside : fields'.beside key = fields.beside key) (hlookup : fields'.lookup key = some value)
    (hvalue : ∀ slot ∈ slots, slot.key = key → slot.Accepts value)
    (h : ∀ entry ∈ fields, ∀ slot ∈ slots, slot.key = entry.1 → slot.Accepts entry.2) :
    ∀ entry ∈ fields', ∀ slot ∈ slots, slot.key = entry.1 → slot.Accepts entry.2 := by
  intro entry hentry
  obtain ⟨other, found⟩ := entry
  by_cases hkey : other = key
  · subst hkey
    have hfound := Keyed.lookup_of_mem hdistinct hentry
    obtain rfl := Option.some.inj (hfound.symm.trans hlookup)
    exact hvalue
  · have hmem : (other, found) ∈ fields'.beside key := List.mem_filter.2 ⟨hentry, decide_eq_true hkey⟩
    rw [hbeside] at hmem
    exact h _ (List.mem_filter.1 hmem).1

end Section

namespace Preferences

variable {cpus : Nat} {d : Duration} {fields fields' : Fields} {origin origin' : Option Text} {limit : Value}

/-! ### The section on runs -/

theorem steady_runSlots (cpus : Nat) : ∀ slot ∈ runSlots cpus, slot.Steady := by
  simp only [runSlots, List.forall_mem_cons]
  exact ⟨Slot.steady_of, Slot.steady_of, Slot.steady_of, fun slot hslot => absurd hslot List.not_mem_nil⟩

/-- What is converted to a limit is read by the slot of the limit. -/
theorem accepts_limit (hlimit : limit.toOption Value.toDuration = .ok (some d)) :
    ∀ slot ∈ runSlots cpus, slot.key = timeoutKey → slot.Accepts limit := by
  have hthreads : threadsKey ≠ timeoutKey := by decide
  have hfailOnError : failOnErrorKey ≠ timeoutKey := by decide
  simp only [runSlots, List.forall_mem_cons]
  exact ⟨fun heq => absurd heq hthreads, fun _ => Slot.accepts_of hlimit, fun heq => absurd heq hfailOnError,
    fun slot hslot => absurd hslot List.not_mem_nil⟩

/-- **A table on runs with another limit** is read as the same settings but for the limit. -/
theorem readRun_limit (hdistinct : (Value.table origin fields).Distinct)
    (hdistinct' : (Value.table origin' fields').Distinct)
    (hbeside : fields'.beside timeoutKey = fields.beside timeoutKey)
    (hlookup : fields'.lookup timeoutKey = some limit) (hlimit : limit.toOption Value.toDuration = .ok (some d))
    {draft : RunDraft} {unknown : List Text} (h : readRun cpus (.table origin fields) = .ok (draft, unknown)) :
    readRun cpus (.table origin' fields') = .ok ({ draft with timeout := some d }, unknown) := by
  obtain ⟨hread, threads, hthreads⟩ := readRun_eq_ok_iff.1 h
  have haccepts := Section.accepts_of_beside hdistinct'.fields.nodup hbeside hlookup (accepts_limit hlimit)
    (Section.accepts_of_readFields (steady_runSlots cpus) (nodup_runSlots cpus) hread)
  obtain ⟨draft', hread'⟩ := Section.exists_readFields haccepts
    { threads := none, timeout := none, failOnError := false }
  have hunknown : fields'.others ((runSlots cpus).map Slot.key) = unknown := by
    rw [Section.unknown_of_readFields hread]
    exact Fields.others_eq_of_beside hbeside (List.mem_cons_of_mem _ List.mem_cons_self)
  obtain ⟨hthreadsSet, -, hfailSet⟩ := runSlots_settled hdistinct hread
  obtain ⟨hthreadsSet', htimeoutSet', hfailSet'⟩ :=
    @runSlots_settled cpus (.table origin' fields') _ _ hdistinct' hread'
  have hsame : ∀ {key : Text}, key ≠ timeoutKey → fields'.lookup key = fields.lookup key := by
    intro key hkey
    rw [← Fields.lookup_beside hkey fields', hbeside, Fields.lookup_beside hkey]
  have hdraft : draft' = { draft with timeout := some d } := by
    obtain ⟨threads', timeout', failOnError'⟩ := draft'
    have hthreadsEq : threads' = draft.threads := by
      refine hthreadsSet.unique ?_
      rw [Value.valueFor?, hsame (by decide)] at hthreadsSet'
      exact hthreadsSet'
    have hfailEq : failOnError' = draft.failOnError := by
      refine hfailSet.unique ?_
      rw [Value.valueFor?, hsame (by decide)] at hfailSet'
      exact hfailSet'
    have htimeoutEq : timeout' = some d := by
      rw [Value.valueFor?, hlookup] at htimeoutSet'
      exact Except.ok.inj (htimeoutSet'.symm.trans hlimit)
    rw [hthreadsEq, hfailEq, htimeoutEq]
  rw [readRun_eq_ok_iff, ← hdraft, ← hunknown]
  exact ⟨hread', threads, by rw [hdraft]; exact hthreads⟩

/-! ### Sources -/

/-- The second source is the first with a text as the limit: it has one table on runs, with the other entries that the
one table of the first has, if there is one, and it says the same elsewhere. -/
structure SetsLimit (text : Text) (source source' : Fields) : Prop where
  elsewhere : source'.elsewhere runKey = source.elsewhere runKey
  table : ∃ (origin origin' origin'' : Option Text) (fields fields' : Fields),
    (source.entriesOf runKey = [(runKey, .table origin fields)] ∨ source.entriesOf runKey = [] ∧ fields = []) ∧
    source'.entriesOf runKey = [(runKey, .table origin' fields')] ∧
    fields'.beside timeoutKey = fields.beside timeoutKey ∧
    fields'.chosen [timeoutKey] = [(timeoutKey, .plain origin'' (.string text))]

variable {source source' : Fields} {text : Text} {preferences : Preferences} {unknown : List Text}

/-- The default table on runs. -/
def defaultRun : Fields := (Value.fieldsOf (defaults.lookup runKey))

/-- What a source with one table on runs, or with none, makes of the section. -/
theorem lookup_run_of_entries
    (h : source.entriesOf runKey = [(runKey, .table origin fields)] ∨ source.entriesOf runKey = [] ∧ fields = []) :
    (defaults.addSource source).lookup runKey = some (.table none (Value.overlayFields fields defaultRun)) := by
  rw [Fields.lookup_addSource_entriesOf source rfl]
  rcases h with h | ⟨h, rfl⟩
  · rw [h]
    change (Fields.addEntry defaults runKey (.table origin fields)).lookup runKey = _
    rw [Fields.lookup_addEntry, ofKey_of_mem_sectionKeys (by decide), if_pos rfl, Value.changeAt, Value.overlay]
    rfl
  · rw [h, Value.overlayFields]
    rfl

theorem SetsLimit.entriesOf_sanitizers (h : SetsLimit text source source') :
    source'.entriesOf sanitizersKey = source.entriesOf sanitizersKey := by
  have helsewhere : ∀ source : Fields,
      source.entriesOf sanitizersKey = (source.elsewhere runKey).entriesOf sanitizersKey := by
    intro source
    rw [Fields.elsewhere, Fields.entriesOf, Fields.entriesOf, List.filter_filter]
    refine List.filter_congr fun entry _ => ?_
    have hne : sanitizersKey ≠ runKey := by decide
    by_cases hroot : (KeyPath.ofKey entry.1).root = sanitizersKey
    · simp [hroot, hne]
    · simp [hroot]
  rw [helsewhere source', h.elsewhere, ← helsewhere]

/-- Both sources make the same keys outside of the sections. -/
theorem SetsLimit.mem_others_iff (h : SetsLimit text source source') (key : Text) :
    key ∈ (defaults.addSource source').others sectionKeys ↔ key ∈ (defaults.addSource source).others sectionKeys := by
  have helsewhere : ∀ source : Fields, key ∉ sectionKeys →
      ((∃ entry ∈ source, (KeyPath.ofKey entry.1).root = key)
        ↔ ∃ entry ∈ source.elsewhere runKey, (KeyPath.ofKey entry.1).root = key) := by
    intro source hkey
    have hne : key ≠ runKey := fun heq => hkey (heq ▸ List.mem_cons_self)
    constructor
    · rintro ⟨entry, hentry, rfl⟩
      exact ⟨entry, List.mem_filter.2 ⟨hentry, decide_eq_true hne⟩, rfl⟩
    · rintro ⟨entry, hentry, hroot⟩
      exact ⟨entry, (List.mem_filter.1 hentry).1, hroot⟩
  rw [Fields.mem_others_iff, Fields.mem_others_iff, Fields.mem_keys_addSource, Fields.mem_keys_addSource]
  refine and_congr_left fun hkey => or_congr_right ?_
  rw [helsewhere source' hkey, h.elsewhere, helsewhere source hkey]

theorem toOption_toDuration {origin : Option Text} (h : Duration.ofText? text = some d) :
    (Value.plain origin (.string text)).toOption Value.toDuration = .ok (some d) := by
  have hread : (Value.plain origin (.string text)).toDuration = .ok d := by
    unfold Value.toDuration
    rw [show (Value.plain origin (.string text)).toText = .ok text from rfl, Except.bind, h]
  rw [Value.toOption, hread]
  · rfl
  · exact fun _ heq => absurd heq (by simp)

/-- The tables on runs that the sources make over the defaults: they differ under the key of the limit alone. -/
theorem SetsLimit.exists_runs (h : SetsLimit text source source') :
    ∃ (origin : Option Text) (fields fields' : Fields),
      (defaults.addSource source).lookup runKey = some (.table none fields) ∧
      (defaults.addSource source').lookup runKey = some (.table none fields') ∧
      fields'.beside timeoutKey = fields.beside timeoutKey ∧
      fields'.lookup timeoutKey = some (.plain origin (.string text)) := by
  obtain ⟨origin, origin', origin'', fields, fields', hentries, hentries', hbeside, hlimit⟩ := h.table
  refine ⟨origin'', _, _, lookup_run_of_entries hentries, lookup_run_of_entries (.inl hentries'), ?_, ?_⟩
  · rw [Fields.beside_overlayFields, hbeside, Fields.beside_overlayFields]
  · have hkey : timeoutKey ∈ [timeoutKey] := List.mem_singleton_self _
    rw [← Fields.lookup_chosen hkey, Fields.chosen_overlayFields, hlimit]
    rfl

theorem SetsLimit.lookup_sanitizers (h : SetsLimit text source source') :
    (defaults.addSource source').lookup sanitizersKey = (defaults.addSource source).lookup sanitizersKey := by
  rw [Fields.lookup_addSource_entriesOf source' rfl, h.entriesOf_sanitizers,
    ← Fields.lookup_addSource_entriesOf source rfl]

/-- **A limit is set by giving it in the table on runs**: a source that loads loads with the limit, to the duration
that the text is of, and nothing else is changed. -/
theorem ofSource_limit (h : SetsLimit text source source') (htext : Duration.ofText? text = some d)
    (hload : ofSource cpus source = .ok (preferences, unknown)) :
    ofSource cpus source' = .ok ({ preferences with timeout := some d }, unknown) := by
  have hdistinct := distinct_over_defaults source
  have hdistinct' := distinct_over_defaults source'
  obtain ⟨run, sanitizers, hsections⟩ := exists_hasSections source
  obtain ⟨run', sanitizers', hsections'⟩ := exists_hasSections source'
  rw [ofSource] at hload ⊢
  rw [addSource_defaults] at hload hsections hsections' hdistinct hdistinct' ⊢
  obtain ⟨runDraft, runOthers, sanitizersDraft, sanitizersOthers, hreadRun, hreadSanitizers, rfl, rfl⟩ :=
    (ofFields_eq_ok_iff hsections).1 hload
  have hreadRun' : readRun cpus run' = .ok ({ runDraft with timeout := some d }, runOthers) := by
    obtain ⟨origin, fields, fields', hfields, hfields', hbeside, hlimit⟩ := h.exists_runs
    obtain rfl := Option.some.inj (hsections.lookup_run.symm.trans hfields)
    obtain rfl := Option.some.inj (hsections'.lookup_run.symm.trans hfields')
    exact readRun_limit (hdistinct.value _ (Keyed.mem_of_lookup hfields))
      (hdistinct'.value _ (Keyed.mem_of_lookup hfields')) hbeside hlimit (toOption_toDuration htext) hreadRun
  have hsanitizers : sanitizers' = sanitizers := by
    have hlookup := h.lookup_sanitizers
    rw [hsections'.lookup_sanitizers, hsections.lookup_sanitizers] at hlookup
    exact Option.some.inj hlookup
  refine (ofFields_eq_ok_iff hsections').2 ⟨_, _, _, _, hreadRun', hsanitizers ▸ hreadSanitizers, rfl, ?_⟩
  refine (Text.ascends_sortedSet _).eq_of_mem_iff (Text.ascends_sortedSet _) fun key => ?_
  simp only [Text.mem_sortedSet, List.mem_append, h.mem_others_iff]

/-- **The same of the files that the sources are read from.** -/
theorem load_limit {tree tree' : FileTree} {here : Location} {base : Text} {file : Option Text}
    {events : List Log.Event}
    (hread : Source.readChosen tree here (Source.choose? tree here base file) = .ok source)
    (hload : load cpus tree here base file = (.ok preferences, events))
    (hchoose : Source.choose? tree' here base file = Source.choose? tree here base file)
    (hread' : Source.readChosen tree' here (Source.choose? tree' here base file) = .ok source')
    (h : SetsLimit text source source') (htext : Duration.ofText? text = some d) :
    load cpus tree' here base file = (.ok { preferences with timeout := some d }, events) := by
  obtain ⟨unknown, hsource, hevents⟩ := (load_eq_ok_iff hread).1 hload
  refine (load_eq_ok_iff hread').2 ⟨unknown, ofSource_limit h htext hsource, ?_⟩
  rw [hchoose]
  exact hevents

end Preferences

end Settings

/-! ### Files -/

namespace Toml

/-- A character of a duration's text needs no escape. -/
theorem isUnescaped_of_mem_write {d : Duration} {c : Char} (h : c ∈ d.write) : IsUnescaped c := by
  have hbounds : (48 ≤ c.toNat ∧ c.toNat ≤ 57) ∨ (97 ≤ c.toNat ∧ c.toNat ≤ 122) ∨ c.toNat = 32 := by
    rcases Duration.plain_of_mem_write h with hdigit | hlower | rfl
    · simp only [Decimal.isDigit, Bool.and_eq_true, decide_eq_true_eq] at hdigit
      exact .inl hdigit
    · exact .inr (.inl (Duration.bounds_of_isLower hlower))
    · exact .inr (.inr rfl)
  refine ⟨?_, ?_, ?_⟩
  · simp only [isPlain, Bool.or_eq_true, Bool.and_eq_true, decide_eq_true_eq, bne_iff_ne]
    omega
  · rintro rfl
    revert hbounds
    decide
  · rintro rfl
    revert hbounds
    decide

/-- **The text of a duration is a value in quotes**, whatever follows. -/
theorem value?_write (d : Duration) (depth : Nat) (rest : Text) :
    value? (depth + 1) ('"' :: (d.write ++ '"' :: rest)) = some (.scalar (.string d.write), rest) := by
  obtain ⟨c, behind, -, hwrite⟩ := d.exists_write_eq_cons
  have hne : d.write ≠ [] := by
    rw [hwrite]
    exact List.cons_ne_nil _ _
  exact value?_quoted hne (fun c hc => isUnescaped_of_mem_write hc) depth rest

/-- One more statement at the start of a document. -/
theorem statements?_of_statement? {c : Char} {s behind rest : Text} {statement : Statement} (lines : Nat)
    (hfiller : skipAll? (c :: s) = some (c :: s)) (hstatement : statement? (c :: s) = some (statement, behind))
    (hline : nextLine? behind = some rest) :
    statements? (lines + 1) (c :: s) = (statements? lines rest).map (statement :: ·) := by
  rw [statements?, hfiller]
  dsimp only
  rw [hstatement]
  dsimp only
  rw [hline]

/-- A document that sets nothing but a limit. -/
def limitText (text : Text) : Text := "[run]\ntimeout = \"".toList ++ text ++ "\"\n".toList

theorem limitText_eq (text : Text) :
    limitText text
      = '[' :: ("run]".toList ++ '\n' :: 't' :: ("imeout = ".toList ++ '"' :: (text ++ ['"', '\n']))) := by
  have hhead : "[run]\ntimeout = \"".toList
      = '[' :: ("run]".toList ++ '\n' :: 't' :: ("imeout = ".toList ++ ['"'])) := by
    decide +kernel
  have hend : "\"\n".toList = ['"', '\n'] := by decide
  have hmove : ∀ first second : Text, '[' :: (first ++ '\n' :: 't' :: (second ++ ['"'])) ++ text ++ ['"', '\n']
      = '[' :: (first ++ '\n' :: 't' :: (second ++ '"' :: (text ++ ['"', '\n']))) := by
    intro first second
    simp
  unfold limitText
  rw [hhead, hend]
  exact hmove _ _

theorem statement?_header (s : Text) :
    statement? ('[' :: ("run]".toList ++ s)) = some (.header ["run".toList], s) := by
  rfl

theorem statement?_limit {s rest : Text} {value : Value}
    (h : value? (depthLimit + 1) ('"' :: s) = some (value, rest)) :
    statement? ('t' :: ("imeout = ".toList ++ '"' :: s)) = some (.definition ["timeout".toList] value, rest) := by
  have hread : statement? ('t' :: ("imeout = ".toList ++ '"' :: s))
      = ((value? (depthLimit + 1) ('"' :: s)).map fun r => ((["timeout".toList], r.1), r.2)).map
        fun r => (.definition r.1.1 r.1.2, r.2) := by
    rfl
  rw [hread, h]
  rfl

/-- **It says what it sets**, where the text stands between quotes as it is. -/
theorem parse?_limitText {text : Text} (hvalue : ∀ rest, value? (depthLimit + 1) ('"' :: (text ++ '"' :: rest))
      = some (.scalar (.string text), rest)) :
    parse? (limitText text) = some [("run".toList, .table .headed [("timeout".toList, .scalar (.string text))])] := by
  have hlength : (limitText text).length + 1 = text.length + 18 + 1 + 1 := by
    have hrun : "run]".toList.length = 4 := by decide
    have htimeout : "imeout = ".toList.length = 9 := by decide
    rw [limitText_eq]
    simp only [List.length_cons, List.length_append, hrun, htimeout, List.length_nil]
    omega
  have hheader : ∀ lines s, statements? (lines + 1) ('[' :: ("run]".toList ++ '\n' :: s))
      = (statements? lines s).map (.header ["run".toList] :: ·) := by
    intro lines s
    have hfiller : skipAll? ('[' :: ("run]".toList ++ '\n' :: s)) = some ('[' :: ("run]".toList ++ '\n' :: s)) := by
      rfl
    have hline : nextLine? ('\n' :: s) = some s := by rfl
    exact statements?_of_statement? lines hfiller (statement?_header _) hline
  have hlimit : ∀ lines, statements? (lines + 1) ('t' :: ("imeout = ".toList ++ '"' :: (text ++ ['"', '\n'])))
      = (statements? lines []).map (.definition ["timeout".toList] (.scalar (.string text)) :: ·) := by
    intro lines
    have hfiller : ∀ s : Text, skipAll? ('t' :: s) = some ('t' :: s) := fun s => by rfl
    have hline : nextLine? ['\n'] = some [] := by rfl
    exact statements?_of_statement? lines (hfiller _) (statement?_limit (hvalue _)) hline
  rw [parse?, hlength, limitText_eq, hheader, hlimit]
  rfl

end Toml

namespace Settings
namespace Preferences

/-- The preferences where nothing is set. -/
def byDefault : Preferences :=
  { threads := .processors, timeout := none, failOnError := false, variantsDir := none, buildCommand := none
    environment := .ofPairs defaultEnvironment }

theorem ofSource_nil (cpus : Nat) : ofSource cpus [] = .ok (byDefault, []) := by
  rfl

/-- A source with nothing but a limit. -/
def limitOnly (origin : Option Text) (text : Text) : Fields :=
  [(runKey, .table origin [(timeoutKey, .plain origin (.string text))])]

theorem setsLimit_limitOnly (origin : Option Text) (text : Text) : SetsLimit text [] (limitOnly origin text) where
  elsewhere := by rfl
  table := ⟨none, origin, origin, [], _, .inr ⟨rfl, rfl⟩, by rfl, by rfl, by rfl⟩

/-- A file that holds the document is read as the source. -/
theorem read_limitText {tree : FileTree} {here : Location} {name path : Text} {d : Duration}
    (hfind : Source.find? tree here name = some path)
    (hcontent : tree.read [] (Utf8.encode path) = .ok (Utf8.encode (Toml.limitText d.write))) :
    Source.read tree here name = .ok (limitOnly (some (Source.originOf here path)) d.write) := by
  have hmark : Source.withoutMark (Utf8.encode (Toml.limitText d.write)) = Utf8.encode (Toml.limitText d.write) := by
    have hbracket : Utf8.encodeChar '[' = [91] := by decide
    rw [Toml.limitText_eq, Utf8.encode_cons, hbracket]
    rfl
  have hparse := Toml.parse?_limitText fun rest => Toml.value?_write d Toml.depthLimit rest
  rw [Source.read, hfind]
  dsimp only
  rw [hcontent]
  dsimp only
  rw [hmark, Utf8.decodeLossy_encode, hparse]
  rfl

/-- **A file that sets nothing but a limit loads with it**, to the duration that its text is of. -/
theorem load_limitText {cpus : Nat} {tree : FileTree} {here : Location} {base name path : Text} {file : Option Text}
    {d : Duration} (hd : d.IsValid) (hchoose : Source.choose? tree here base file = some name)
    (hfind : Source.find? tree here name = some path)
    (hcontent : tree.read [] (Utf8.encode path) = .ok (Utf8.encode (Toml.limitText d.write))) :
    load cpus tree here base file
      = (.ok { byDefault with timeout := some d }, Source.events (some name) []) := by
  have hread : Source.readChosen tree here (Source.choose? tree here base file)
      = .ok (limitOnly (some (Source.originOf here path)) d.write) := by
    rw [hchoose]
    exact read_limitText hfind hcontent
  have hsource := ofSource_limit (setsLimit_limitOnly (some (Source.originOf here path)) d.write)
    (Duration.ofText?_write hd) (ofSource_nil cpus)
  exact (load_eq_ok_iff hread).2 ⟨[], hsource, by rw [hchoose]⟩

end Preferences
end Settings
end TestBench
