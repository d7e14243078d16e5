/-
# What a section makes of its entries

A section is read slot by slot.  Of the settings that it gives, each comes from one entry: the value under
the slot's key in a table, the item in the slot's place in a list.  It is the converted entry, or what held
before if there is none (`Settled`, `Section.read_slot`).  Entries that no slot reads do nothing but to be
named (`Section.readFields_eq`).
-/

import Mathlib.Data.List.Nodup
import TestBench.Proofs.Text.Keyed
import TestBench.Settings.Preferences

namespace TestBench
namespace Settings

namespace Fields

/-- The fields under the keys. -/
def chosen (fields : Fields) (keys : List Text) : Fields := fields.filter fun entry => keys.contains entry.1

/-- The other keys of the fields. -/
def others (fields : Fields) (keys : List Text) : List Text :=
  (fields.filter fun entry => !keys.contains entry.1).map Prod.fst

theorem lookup_chosen {keys : List Text} {key : Text} (hkey : key ∈ keys) (fields : Fields) :
    (fields.chosen keys).lookup key = fields.lookup key :=
  Keyed.lookup_filter (List.contains_iff_mem.2 hkey) fields

theorem chosen_put (keys : List Text) (key : Text) (value : Value) (fields : Fields) :
    Fields.chosen (Keyed.put key value fields) keys
      = if key ∈ keys then Keyed.put key value (fields.chosen keys) else fields.chosen keys := by
  simp only [chosen, Keyed.filter_put keys.contains, List.contains_iff_mem]

theorem mem_others_iff {fields : Fields} {keys : List Text} {key : Text} :
    key ∈ fields.others keys ↔ key ∈ fields.map Prod.fst ∧ key ∉ keys := by
  simp only [others, List.mem_map, List.mem_filter, Bool.not_eq_true', List.contains_eq_mem,
    decide_eq_false_iff_not]
  constructor
  · rintro ⟨entry, ⟨hentry, hkey⟩, rfl⟩
    exact ⟨⟨entry, hentry, rfl⟩, hkey⟩
  · rintro ⟨⟨entry, hentry, rfl⟩, hkey⟩
    exact ⟨entry, ⟨hentry, hkey⟩, rfl⟩

end Fields

namespace Value

/-- What a section has for a key: the value under the key in a table, the item in the key's place in a
list. -/
def valueFor? (whole : Value) (key : Text) (place : Nat) : Option Value :=
  match whole with
  | table _ fields => fields.lookup key
  | list _ items => items[place]?
  | plain _ _ => none

/-- No key stands twice in a table that is reached through tables. -/
inductive Distinct : Value → Prop
  | plain (origin : Option Text) (value : Plain) : Distinct (plain origin value)
  | list (origin : Option Text) (items : List Value) : Distinct (list origin items)
  | table {origin : Option Text} {fields : Fields} (hkeys : (fields.map Prod.fst).Nodup)
      (h : ∀ entry ∈ fields, Distinct entry.2) : Distinct (table origin fields)

end Value

/-- A setting is the converted entry, or the default if there is no entry. -/
def Settled {α : Type} (read : Value → Except ReadError α) (byDefault : α) (entry : Option Value)
    (setting : α) : Prop :=
  match entry with
  | none => setting = byDefault
  | some value => read value = .ok setting

/-- What a slot of a read value stores was read. -/
theorem Slot.of_read {σ α : Type} {key : Text} {read : Value → Except ReadError α} {store : α → σ → σ}
    {value : Value} {before after : σ} (h : (Slot.of key read store).read value before = .ok after) :
    ∃ a, read value = .ok a ∧ after = store a before := by
  change (read value).map (store · before) = .ok after at h
  cases hread : read value with
  | error err => rw [hread] at h; exact nomatch h
  | ok a => rw [hread] at h; exact ⟨a, rfl, (Except.ok.inj h).symm⟩

/-- What the slot stores is seen through `view` as what `read` makes of the value. -/
def Slot.Stores {σ β : Type} (slot : Slot σ) (read : Value → Except ReadError β) (view : σ → β) : Prop :=
  ∀ value before after, slot.read value before = .ok after → read value = .ok (view after)

/-- What the slot stores is not seen through `view`. -/
def Slot.Leaves {σ β : Type} (slot : Slot σ) (view : σ → β) : Prop :=
  ∀ value before after, slot.read value before = .ok after → view after = view before

theorem Slot.stores_of {σ α β : Type} {key : Text} {read : Value → Except ReadError α}
    {store : α → σ → σ} {read' : Value → Except ReadError β} {view : σ → β}
    (h : ∀ value a record, read value = .ok a → read' value = .ok (view (store a record))) :
    (Slot.of key read store).Stores read' view := by
  intro value before after hafter
  obtain ⟨a, hread, rfl⟩ := Slot.of_read hafter
  exact h value a before hread

theorem Slot.leaves_of {σ α β : Type} {key : Text} {read : Value → Except ReadError α}
    {store : α → σ → σ} {view : σ → β} (hstore : ∀ a record, view (store a record) = view record) :
    (Slot.of key read store).Leaves view := by
  intro value before after h
  obtain ⟨a, -, rfl⟩ := Slot.of_read h
  exact hstore a before

namespace Section

variable {σ β : Type} {slots : List (Slot σ)}

theorem find?_eq_none_iff {key : Text} :
    (slots.find? fun slot => slot.key = key) = none ↔ key ∉ slots.map Slot.key := by
  rw [List.find?_eq_none, List.mem_map]
  simp

theorem mem_of_find? {key : Text} {slot : Slot σ}
    (h : (slots.find? fun slot => slot.key = key) = some slot) : slot ∈ slots ∧ slot.key = key :=
  ⟨List.mem_of_find?_eq_some h, by simpa using List.find?_some h⟩

theorem readFields_cons_unknown {key : Text} (h : (slots.find? fun slot => slot.key = key) = none)
    (value : Value) (rest : Fields) (record : σ) :
    readFields slots ((key, value) :: rest) record
      = (readFields slots rest record).map fun outcome => (outcome.1, key :: outcome.2) := by
  simp only [readFields, h]

theorem readFields_cons_known {key : Text} {slot : Slot σ}
    (h : (slots.find? fun slot => slot.key = key) = some slot) (value : Value) (rest : Fields)
    (record : σ) :
    readFields slots ((key, value) :: rest) record
      = match slot.read value record with
        | .error err => .error (err.under key)
        | .ok record => readFields slots rest record := by
  cases hread : slot.read value record with
  | error err => simp only [readFields, h, hread]
  | ok next => simp only [readFields, h, hread]

/-- **Entries without a slot are named and otherwise ignored.** -/
theorem readFields_eq (fields : Fields) (record : σ) :
    readFields slots fields record
      = (readFields slots (fields.chosen (slots.map Slot.key)) record).map fun outcome =>
          (outcome.1, fields.others (slots.map Slot.key)) := by
  induction fields generalizing record with
  | nil => rfl
  | cons entry rest ih =>
    obtain ⟨key, value⟩ := entry
    rw [Fields.chosen, Fields.others]
    cases hfind : slots.find? fun slot => slot.key = key with
    | none =>
      have hkey : (slots.map Slot.key).contains key = false := by
        rw [List.contains_eq_mem, decide_eq_false_iff_not]
        exact find?_eq_none_iff.1 hfind
      simp only [List.filter_cons, hkey, Bool.not_false, Bool.false_eq_true, if_true, if_false]
      rw [readFields_cons_unknown hfind, ih, ← Fields.chosen]
      cases readFields slots (Fields.chosen rest (slots.map Slot.key)) record <;> rfl
    | some slot =>
      have hkey : (slots.map Slot.key).contains key = true := by
        rw [List.contains_iff_mem, ← (mem_of_find? hfind).2]
        exact List.mem_map_of_mem (mem_of_find? hfind).1
      simp only [List.filter_cons, hkey, Bool.not_true, Bool.false_eq_true, if_true, if_false]
      rw [readFields_cons_known hfind, readFields_cons_known hfind]
      cases slot.read value record with
      | error err => rfl
      | ok next => exact ih next

variable {view : σ → β} {read : Value → Except ReadError β} {place : Nat} {slot : Slot σ}

/-- One setting, from the fields of a table. -/
theorem readFields_slot (hkeys : (slots.map Slot.key).Nodup) (hslot : slot ∈ slots)
    (hview : slot.Stores read view)
    (hothers : ∀ other ∈ slots, other.key ≠ slot.key → other.Leaves view)
    {fields : Fields} (hdistinct : (fields.map Prod.fst).Nodup) {record record' : σ}
    {unknown : List Text} (h : readFields slots fields record = .ok (record', unknown)) :
    Settled read (view record) (fields.lookup slot.key) (view record') := by
  induction fields generalizing record unknown with
  | nil => cases h; exact rfl
  | cons entry rest ih =>
    obtain ⟨key, value⟩ := entry
    rw [List.map_cons, List.nodup_cons] at hdistinct
    cases hfind : slots.find? fun slot => slot.key = key with
    | none =>
      have hne : slot.key ≠ key := fun heq =>
        List.find?_eq_none.1 hfind slot hslot (by simpa using heq)
      rw [readFields_cons_unknown hfind] at h
      rw [List.lookup_cons, beq_eq_false_iff_ne.2 hne]
      cases hrest : readFields slots rest record with
      | error err => rw [hrest] at h; exact nomatch h
      | ok outcome =>
        rw [hrest] at h
        cases h
        exact ih hdistinct.2 hrest
    | some found =>
      obtain ⟨hfound, hkey⟩ := mem_of_find? hfind
      rw [readFields_cons_known hfind] at h
      cases hread : found.read value record with
      | error err => rw [hread] at h; exact nomatch h
      | ok next =>
        rw [hread] at h
        have hrest := ih hdistinct.2 h
        by_cases hsame : found.key = slot.key
        · -- The entry of the slot: no later one changes the setting.
          obtain rfl : found = slot := List.inj_on_of_nodup_map hkeys hfound hslot hsame
          have hlast : rest.lookup found.key = none := List.lookup_eq_none_iff.2 fun pair hpair =>
            bne_iff_ne.2 fun heq => hdistinct.1 (List.mem_map.2 ⟨pair, hpair, (heq.symm.trans hkey)⟩)
          rw [hlast] at hrest
          rw [← hkey, List.lookup_cons_self]
          exact (hview value record next hread).trans (congrArg Except.ok (Eq.symm hrest))
        · have hne : slot.key ≠ key := fun heq => hsame (hkey.trans heq.symm)
          rw [List.lookup_cons, beq_eq_false_iff_ne.2 hne, ← hothers found hfound hsame value record next hread]
          exact hrest

/-- Items that do not concern a setting leave it as it is. -/
theorem readItems_view (hothers : ∀ other ∈ slots, other.Leaves view)
    {items : List Value} {first : Nat} {record record' : σ}
    (h : readItems first slots items record = .ok record') : view record' = view record := by
  induction slots generalizing first items record with
  | nil =>
    simp only [readItems, Except.ok.injEq] at h
    rw [h]
  | cons head slots ih =>
    cases items with
    | nil => cases h; rfl
    | cons item items =>
      rw [readItems] at h
      cases hread : head.read item record with
      | error err => rw [hread] at h; exact nomatch h
      | ok next =>
        rw [hread] at h
        rw [← hothers head List.mem_cons_self item record next hread]
        exact ih (fun other hother => hothers other (List.mem_cons_of_mem _ hother)) h

/-- One setting, from the items of a list. -/
theorem readItems_slot (hkeys : (slots.map Slot.key).Nodup) (hslot : slots[place]? = some slot)
    (hview : slot.Stores read view)
    (hothers : ∀ other ∈ slots, other.key ≠ slot.key → other.Leaves view)
    {items : List Value} {first : Nat} {record record' : σ}
    (h : readItems first slots items record = .ok record') :
    Settled read (view record) items[place]? (view record') := by
  induction slots generalizing place first items record with
  | nil => exact nomatch hslot
  | cons head slots ih =>
    rw [List.map_cons, List.nodup_cons] at hkeys
    cases items with
    | nil => cases h; exact rfl
    | cons item items =>
      rw [readItems] at h
      cases hread : head.read item record with
      | error err => rw [hread] at h; exact nomatch h
      | ok next =>
        rw [hread] at h
        cases place with
        | zero =>
          obtain rfl : head = slot := by simpa using hslot
          -- The item of the slot: no later one changes the setting.
          have hview' : view record' = view next := readItems_view (fun other hother =>
            hothers other (List.mem_cons_of_mem _ hother) fun heq =>
              hkeys.1 (heq ▸ List.mem_map_of_mem hother)) h
          exact (hview item record next hread).trans (congrArg Except.ok hview'.symm)
        | succ place =>
          have hmem : slot ∈ slots := List.mem_of_getElem? hslot
          have hne : head.key ≠ slot.key := fun heq => hkeys.1 (heq ▸ List.mem_map_of_mem hmem)
          rw [List.getElem?_cons_succ, ← hothers head List.mem_cons_self hne item record next hread]
          exact ih hkeys.2 hslot (fun other hother => hothers other (List.mem_cons_of_mem _ hother)) h

/-- **One setting of a section** is the converted entry, or what held before if there is none. -/
theorem read_slot (hkeys : (slots.map Slot.key).Nodup) (hslot : slots[place]? = some slot)
    (hview : slot.Stores read view)
    (hothers : ∀ other ∈ slots, other.key ≠ slot.key → other.Leaves view)
    {name : Text} {whole : Value} (hdistinct : whole.Distinct) {record record' : σ}
    {unknown : List Text} (h : Section.read name slots record whole = .ok (record', unknown)) :
    Settled read (view record) (whole.valueFor? slot.key place) (view record') := by
  cases hdistinct with
  | plain => exact nomatch h
  | list origin items =>
    change (readItems 0 slots items record).map (·, []) = .ok (record', unknown) at h
    cases hitems : readItems 0 slots items record with
    | error err => rw [hitems] at h; exact nomatch h
    | ok outcome =>
      rw [hitems] at h
      cases h
      exact readItems_slot hkeys hslot hview hothers hitems
  | table hnodup => exact readFields_slot hkeys (List.mem_of_getElem? hslot) hview hothers hnodup h

end Section
end Settings
end TestBench
