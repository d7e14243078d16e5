/-
# What stands in a place after layering

A source is laid over the defaults entry by entry, and an entry may change the settings deep inside.  What
stands in a place in the end is told from two things: what stands there by default, and what the source
by itself makes of the place (its own value, if any).

| by default | the source's own | in the end |
| --- | --- | --- |
| anything | nothing | what stands there by default, unless an entry broke a table around it |
| anything | a plain value or a list | the source's own |
| anything | a table | a table, and so on for each key |

`Layered` is this relation.  Both sides take the same steps, so that each step preserves it (`Layered.overlay`
by recursion on the value that is laid over, `Layered.changeAt` by induction on the way to it), and with it
whole sources (`Layered.addSource`).

Where both sides have a table, the keys of the outcome stand in a known order: those of the default table, and
then the source's own others in the order that the source gives them (`KeysLayered`).

No table is broken by a source that gives a table wherever a default table stands (`Spares`): `keep` in
`Layered` says that the default tables are all kept.
-/

import TestBench.Proofs.Settings.Entries
import TestBench.Settings.Preferences

namespace TestBench
namespace Settings

namespace Value

/-- The fields of what stands in a place. -/
def fieldsOf (place : Option Value) : Fields := (place.getD missing).fields

@[simp] theorem fieldsOf_none : fieldsOf none = [] := rfl

/-- No list is reached through tables. -/
inductive Listless : Value → Prop
  | plain (origin : Option Text) (value : Plain) : Listless (plain origin value)
  | table {origin : Option Text} {fields : Fields}
      (h : ∀ key value, fields.lookup key = some value → Listless value) :
      Listless (table origin fields)

/-- The order of the keys after a source was laid over the defaults: those of the default table, and then the
source's own others; or just the source's own, if the default table is broken. -/
def KeysLayered (keep : Bool) (byDefault own outcome : Fields) : Prop :=
  outcome.map Prod.fst = byDefault.map Prod.fst ++ Keyed.newKeys (byDefault.map Prod.fst) (own.map Prod.fst) ∨
    keep = false ∧ outcome.map Prod.fst = own.map Prod.fst

namespace KeysLayered

variable {keep : Bool} {byDefault own outcome : Fields}

/-- A key is put on both sides at once. -/
theorem put (h : KeysLayered keep byDefault own outcome) (name : Text) (ours whole : Value) :
    KeysLayered keep byDefault (Keyed.put name ours own) (Keyed.put name whole outcome) := by
  rw [KeysLayered, Keyed.map_fst_put, Keyed.map_fst_put]
  rcases h with h | ⟨hkeep, h⟩
  · refine .inl ?_
    have hmem : name ∈ outcome.map Prod.fst ↔ name ∈ byDefault.map Prod.fst ∨ name ∈ own.map Prod.fst := by
      rw [h, List.mem_append, Keyed.mem_newKeys_iff]
      by_cases hname : name ∈ byDefault.map Prod.fst
      · simp only [hname, true_or]
      · simp only [hname, false_or, not_false_eq_true, and_true]
    by_cases hdefault : name ∈ byDefault.map Prod.fst
    · rw [if_pos (hmem.2 (.inl hdefault)), h]
      split_ifs with hown
      · rfl
      · rw [Keyed.newKeys_concat_of_mem hdefault]
    · split_ifs with houtcome hown hown
      · exact h
      · exact absurd ((hmem.1 houtcome).resolve_left hdefault) hown
      · exact absurd (hmem.2 (.inr hown)) houtcome
      · rw [h, Keyed.newKeys_concat_of_notMem hdefault, List.append_assoc]
  · exact .inr ⟨hkeep, by rw [h]⟩

theorem overlayFields (h : KeysLayered keep byDefault own outcome) (fields : List (Text × Value)) :
    KeysLayered keep byDefault (Value.overlayFields fields own) (Value.overlayFields fields outcome) := by
  induction fields generalizing own outcome with
  | nil => simpa only [Value.overlayFields] using h
  | cons entry rest ih =>
    simp only [Value.overlayFields]
    exact ih (h.put entry.1 _ _)

end KeysLayered

/-- What stands in a place after a source was laid over the defaults: what stands there by default, what
the source makes of the place by itself, and the outcome. -/
inductive Layered (keep : Bool) : (byDefault own outcome : Option Value) → Prop
  | untouched {byDefault : Option Value} (h : ∀ value ∈ byDefault, Listless value) :
      Layered keep byDefault none byDefault
  | replaced {byDefault : Option Value} {value : Value} (hvalue : value.fields = [])
      (hkeep : keep = true → fieldsOf byDefault = []) :
      Layered keep byDefault (some value) (some value)
  | merged {byDefault : Option Value} {origin origin' : Option Text} {own outcome : Fields}
      (h : ∀ key, Layered keep ((fieldsOf byDefault).lookup key) (own.lookup key) (outcome.lookup key))
      (hkeys : KeysLayered keep (fieldsOf byDefault) own outcome) :
      Layered keep byDefault (some (table origin own)) (some (table origin' outcome))
  | lost {byDefault : Option Value} (hkeep : keep = false) : Layered keep byDefault none none

/-- A value gives tables where the defaults have tables with fields. -/
inductive Spares : (byDefault : Option Value) → (value : Value) → Prop
  | bare {byDefault : Option Value} {value : Value} (h : fieldsOf byDefault = []) :
      Spares byDefault value
  | table {byDefault : Option Value} {origin : Option Text} {fields : Fields}
      (h : ∀ entry ∈ fields, Spares ((fieldsOf byDefault).lookup entry.1) entry.2) :
      Spares byDefault (table origin fields)

/-- A value gives tables where the defaults have tables with fields when it is laid over what the steps
lead to, and so do the steps. -/
def SparesAt (value : Value) : (byDefault : Option Value) → List Step → Prop
  | byDefault, [] => Spares byDefault value
  | byDefault, .key name :: steps => SparesAt value ((fieldsOf byDefault).lookup name) steps
  | byDefault, .item _ :: _ => fieldsOf byDefault = []

namespace Layered

variable {keep : Bool} {byDefault own outcome : Option Value}

/-- Where nothing stands by default, nothing can be lost. -/
theorem nothing : Layered keep none none none := untouched (by simp)

/-- The relation goes down to the fields. -/
theorem fields (h : Layered keep byDefault own outcome) (key : Text) :
    Layered keep ((fieldsOf byDefault).lookup key) ((fieldsOf own).lookup key)
      ((fieldsOf outcome).lookup key) := by
  cases h with
  | untouched h =>
    refine untouched fun value hvalue => ?_
    cases hdefault : byDefault with
    | none => simp [hdefault] at hvalue
    | some whole =>
      rw [hdefault] at hvalue h
      cases h whole rfl with
      | plain => exact nomatch hvalue
      | table hfields => exact hfields key value hvalue
  | @replaced _ value hvalue hkeep =>
    have hfields : fieldsOf (some value) = [] := hvalue
    rw [hfields, List.lookup_nil]
    cases keep with
    | false => exact lost rfl
    | true =>
      rw [hkeep rfl, List.lookup_nil]
      exact nothing
  | merged h => exact h key
  | lost hkeep => exact lost hkeep

/-- The keys of the fields stand in order. -/
theorem keys (h : Layered keep byDefault own outcome) :
    KeysLayered keep (fieldsOf byDefault) (fieldsOf own) (fieldsOf outcome) := by
  cases h with
  | untouched =>
    refine .inl ?_
    rw [fieldsOf_none]
    exact (List.append_nil _).symm
  | @replaced _ value hvalue hkeep =>
    have hfields : fieldsOf (some value) = [] := hvalue
    rw [hfields]
    cases keep with
    | false => exact .inr ⟨rfl, rfl⟩
    | true =>
      rw [hkeep rfl]
      exact .inl rfl
  | merged _ hkeys => exact hkeys
  | lost hkeep => exact .inr ⟨hkeep, rfl⟩

/-- Only the defaults have other items than the source, and they have none. -/
theorem items (h : Layered keep byDefault own outcome) :
    (own.getD missing).items = (outcome.getD missing).items ∧
      (own.getD missing).listOrigin? = (outcome.getD missing).listOrigin? := by
  cases h with
  | untouched h =>
    cases hdefault : byDefault with
    | none => exact ⟨rfl, rfl⟩
    | some whole =>
      cases h whole hdefault with
      | plain => exact ⟨rfl, rfl⟩
      | table => exact ⟨rfl, rfl⟩
  | replaced => exact ⟨rfl, rfl⟩
  | merged => exact ⟨rfl, rfl⟩
  | lost => exact ⟨rfl, rfl⟩

/-- Values in the same relation may be put under a key on both sides. -/
theorem put {defaults : Text → Option Value} {own outcome : Fields}
    (h : ∀ key, Layered keep (defaults key) (own.lookup key) (outcome.lookup key)) {name : Text}
    {ours whole : Value} (hname : Layered keep (defaults name) (some ours) (some whole)) (key : Text) :
    Layered keep (defaults key) ((Keyed.put name ours own).lookup key)
      ((Keyed.put name whole outcome).lookup key) := by
  rw [Keyed.lookup_put, Keyed.lookup_put]
  split_ifs with hkey
  · exact hkey ▸ hname
  · exact h key

mutual

/-- **Laying a value over both sides** keeps the relation. -/
theorem overlay {byDefault own outcome : Option Value} (h : Layered keep byDefault own outcome) :
    (value : Value) → (keep = true → Spares byDefault value) →
      Layered keep byDefault (some (Value.overlay value (own.getD missing)))
        (some (Value.overlay value (outcome.getD missing)))
  | .plain _ _, hspares => by
    simp only [Value.overlay]
    refine replaced rfl fun hkeep => ?_
    cases hspares hkeep with
    | bare h => exact h
  | .list _ _, hspares => by
    simp only [Value.overlay]
    refine replaced rfl fun hkeep => ?_
    cases hspares hkeep with
    | bare h => exact h
  | .table _ fields, hspares => by
    simp only [Value.overlay]
    refine merged (overlayFields h.fields fields fun hkeep entry hentry => ?_) (h.keys.overlayFields fields)
    cases hspares hkeep with
    | bare h => exact .bare (by rw [h]; rfl)
    | table h => exact h entry hentry

theorem overlayFields {defaults : Text → Option Value} {own outcome : Fields}
    (h : ∀ key, Layered keep (defaults key) (own.lookup key) (outcome.lookup key)) :
    (fields : List (Text × Value)) → (keep = true → ∀ entry ∈ fields, Spares (defaults entry.1) entry.2) →
      ∀ key, Layered keep (defaults key) ((Value.overlayFields fields own).lookup key)
        ((Value.overlayFields fields outcome).lookup key)
  | [], _ => by simpa only [Value.overlayFields] using h
  | (name, value) :: rest, hspares => by
    have hname := overlay (h name) value fun hkeep => hspares hkeep (name, value) List.mem_cons_self
    simp only [Value.overlayFields]
    exact overlayFields (put h hname) rest fun hkeep entry hentry =>
      hspares hkeep entry (List.mem_cons_of_mem _ hentry)

end

/-- **Laying a value over what the steps lead to** keeps the relation. -/
theorem changeAt (h : Layered keep byDefault own outcome) (value : Value) (steps : List Step)
    (hspares : keep = true → SparesAt value byDefault steps) :
    Layered keep byDefault (some ((own.getD missing).changeAt (Value.overlay value) steps))
      (some ((outcome.getD missing).changeAt (Value.overlay value) steps)) := by
  induction steps generalizing byDefault own outcome with
  | nil => exact h.overlay value hspares
  | cons step steps ih =>
    cases step with
    | key name => exact merged (put h.fields (ih (h.fields name) hspares)) (h.keys.put name _ _)
    | item index =>
      -- Both sides make a list of the same items, so the outcome is the source's own list.
      obtain ⟨hitems, horigin⟩ := h.items
      simp only [Value.changeAt]
      rw [hitems, horigin]
      exact replaced rfl hspares

end Layered

/-- **A whole source.**  What the source makes of a name by itself and what it makes of it over the defaults
are in the relation. -/
theorem Layered.addSource {keep : Bool} {byDefault : Option Value} {name : Text} {own outcome : Fields}
    (h : Layered keep byDefault (own.lookup name) (outcome.lookup name)) (source : Fields)
    (hspares : keep = true → ∀ entry ∈ source.entriesOf name,
      SparesAt entry.2 byDefault (KeyPath.ofKey entry.1).steps) :
    Layered keep byDefault ((own.addSource source).lookup name) ((outcome.addSource source).lookup name) := by
  induction source generalizing own outcome with
  | nil => exact h
  | cons entry rest ih =>
    refine ih ?_ fun hkeep other hother => ?_
    · rw [Fields.lookup_addEntry, Fields.lookup_addEntry]
      split_ifs with hname
      · exact h.changeAt entry.2 _ fun hkeep =>
          hspares hkeep entry (Fields.mem_entriesOf_iff.2 ⟨List.mem_cons_self, hname.symm⟩)
      · exact h
    · obtain ⟨hmem, hroot⟩ := Fields.mem_entriesOf_iff.1 hother
      exact hspares hkeep other (Fields.mem_entriesOf_iff.2 ⟨List.mem_cons_of_mem _ hmem, hroot⟩)

end Value
end Settings
end TestBench
