/-
# The entries of a source

An entry at the top of a source changes what stands under the first name of its path, and nothing else.
So what a source makes of a name is made by the entries whose paths begin with it, in their order
(`Fields.lookup_addSource_entriesOf`), and a plain name leads to itself (`KeyPath.ofKey_eq_of_isNameChar`).

Inside, a table is laid over another one key by key (`Value.lookup_overlayFields`): each key has the value
of the upper table laid over that of the lower one, and keys that the upper table has not are untouched.
-/

import Mathlib.Data.List.TakeWhile
import Mathlib.Tactic.SplitIfs
import TestBench.Proofs.Text.Keyed
import TestBench.Settings.KeyPath

namespace TestBench
namespace Settings

namespace KeyPath

/-- A name of letters, digits, `_` and `-` leads to itself. -/
theorem ofKey_eq_of_isNameChar {name : Text} (hname : name ≠ []) (h : ∀ c ∈ name, isNameChar c = true) :
    ofKey name = { root := name, steps := [] } := by
  have htake : name.takeWhile isNameChar = name := List.takeWhile_eq_self_iff.2 h
  have hdrop : name.dropWhile isNameChar = [] := List.dropWhile_eq_nil_iff.2 h
  obtain ⟨c, rest, rfl⟩ := List.exists_cons_of_ne_nil hname
  rw [ofKey, ofText?, name?, htake, hdrop]
  rfl

end KeyPath

namespace Value

/-- **Key by key.**  Under a key of the upper table stands its value laid over what stands there below, and
under any other key what stands there below. -/
theorem lookup_overlayFields {above : List (Text × Value)} (hkeys : (above.map Prod.fst).Nodup)
    (below : Fields) (key : Text) :
    (overlayFields above below).lookup key
      = match above.lookup key with
        | some value => some (value.overlay ((below.lookup key).getD missing))
        | none => below.lookup key := by
  induction above generalizing below with
  | nil => rw [overlayFields, List.lookup_nil]
  | cons entry rest ih =>
    obtain ⟨first, value⟩ := entry
    rw [List.map_cons, List.nodup_cons] at hkeys
    rw [overlayFields, ih hkeys.2, List.lookup_cons, Keyed.lookup_put]
    by_cases hkey : key = first
    · subst hkey
      have hlast : rest.lookup key = none := List.lookup_eq_none_iff.2 fun pair hpair =>
        bne_iff_ne.2 fun heq => hkeys.1 (List.mem_map.2 ⟨pair, hpair, heq.symm⟩)
      rw [hlast, beq_self_eq_true, if_pos rfl]
    · rw [beq_eq_false_iff_ne.2 hkey, if_neg hkey]

/-- A choice of fields by their keys may be made before laying over or after it. -/
theorem filter_overlayFields (chosen : Text → Bool) (above : List (Text × Value)) (below : Fields) :
    (overlayFields above below).filter (fun entry => chosen entry.1)
      = overlayFields (above.filter fun entry => chosen entry.1) (below.filter fun entry => chosen entry.1) := by
  induction above generalizing below with
  | nil => rw [List.filter_nil, overlayFields, overlayFields]
  | cons entry rest ih =>
    obtain ⟨key, value⟩ := entry
    rw [overlayFields, ih, Keyed.filter_put, List.filter_cons]
    dsimp only
    split_ifs with hkey
    · rw [overlayFields, Keyed.lookup_filter hkey]
    · rfl

end Value

namespace Fields

/-- An entry changes what stands under the first name of its path. -/
theorem lookup_addEntry (below : Fields) (key : Text) (value : Value) (name : Text) :
    (below.addEntry key value).lookup name
      = if name = (KeyPath.ofKey key).root then
          some (((below.lookup name).getD .missing).changeAt value.overlay (KeyPath.ofKey key).steps)
        else below.lookup name := by
  rw [addEntry, Keyed.lookup_put]
  split_ifs with hname
  · rw [hname]
  · rfl

theorem mem_keys_addEntry {below : Fields} {key name : Text} {value : Value} :
    name ∈ (below.addEntry key value).map Prod.fst
      ↔ name = (KeyPath.ofKey key).root ∨ name ∈ below.map Prod.fst := Keyed.mem_keys_put

theorem mem_keys_addSource {source below : Fields} {name : Text} :
    name ∈ (below.addSource source).map Prod.fst
      ↔ name ∈ below.map Prod.fst ∨ ∃ entry ∈ source, (KeyPath.ofKey entry.1).root = name := by
  induction source generalizing below with
  | nil => simp [addSource]
  | cons entry rest ih =>
    refine ih.trans ?_
    rw [mem_keys_addEntry, List.exists_mem_cons_iff, eq_comm, or_assoc, or_left_comm]

/-- The entries whose paths begin with the name. -/
def entriesOf (source : Fields) (name : Text) : Fields :=
  source.filter fun entry => (KeyPath.ofKey entry.1).root = name

theorem mem_entriesOf_iff {source : Fields} {name : Text} {entry : Text × Value} :
    entry ∈ source.entriesOf name ↔ entry ∈ source ∧ (KeyPath.ofKey entry.1).root = name := by
  rw [entriesOf, List.mem_filter, decide_eq_true_iff]

/-- **Under a name stands what the entries make whose paths begin with it.** -/
theorem lookup_addSource_entriesOf (source : Fields) {below below' : Fields} {name : Text}
    (h : below.lookup name = below'.lookup name) :
    (below.addSource source).lookup name = (below'.addSource (source.entriesOf name)).lookup name := by
  induction source generalizing below below' with
  | nil => exact h
  | cons entry rest ih =>
    rw [entriesOf, List.filter_cons]
    split_ifs with hroot
    · refine ih ?_
      rw [lookup_addEntry, lookup_addEntry, h]
    · refine ih ?_
      rw [lookup_addEntry, if_neg fun heq => hroot (decide_eq_true heq.symm), h]

end Fields
end Settings
end TestBench
