/-
# What putting leaves as it is

A value that is put under its key adds no pair but its own (`Keyed.mem_put`).  A choice of pairs by their keys
commutes with it (`Keyed.filter_put`), and does not change what is found under a chosen key
(`Keyed.lookup_filter`).  The order of the keys and what is found under them is all there is to a list without
repetition (`Keyed.eq_of_lookup`).
-/

import Mathlib.Data.List.Nodup
import TestBench.Text.Keyed

namespace TestBench
namespace Keyed

variable {α β : Type} [BEq α] [LawfulBEq α]

theorem mem_put {key : α} {value : β} {l : List (α × β)} {pair : α × β} (h : pair ∈ put key value l) :
    pair = (key, value) ∨ pair ∈ l := by
  induction l with
  | nil => exact .inl (List.mem_singleton.1 h)
  | cons first rest ih =>
    rw [put] at h
    split_ifs at h with hkey
    · rcases List.mem_cons.1 h with rfl | h
      · exact .inl (by rw [LawfulBEq.eq_of_beq hkey])
      · exact .inr (List.mem_cons_of_mem _ h)
    · rcases List.mem_cons.1 h with rfl | h
      · exact .inr List.mem_cons_self
      · exact (ih h).imp_right (List.mem_cons_of_mem _)

/-- A choice of pairs by their keys may be made before putting or after it. -/
theorem filter_put (chosen : α → Bool) (key : α) (value : β) (l : List (α × β)) :
    (put key value l).filter (fun pair => chosen pair.1)
      = if chosen key then put key value (l.filter fun pair => chosen pair.1)
        else l.filter fun pair => chosen pair.1 := by
  induction l with
  | nil => cases hchosen : chosen key <;> simp [put, hchosen]
  | cons first rest ih =>
    obtain ⟨k, v⟩ := first
    rw [put]
    by_cases hkey : k = key
    · subst hkey
      cases hchosen : chosen k <;> simp [put, hchosen]
    · rw [if_neg (by simpa using hkey), List.filter_cons, ih]
      cases hchosen : chosen key <;> cases hk : chosen k <;> simp [put, hk, hkey]

theorem lookup_filter {chosen : α → Bool} {key : α} (h : chosen key = true) (l : List (α × β)) :
    (l.filter fun pair => chosen pair.1).lookup key = l.lookup key := by
  induction l with
  | nil => rfl
  | cons first rest ih =>
    obtain ⟨k, v⟩ := first
    by_cases hkey : key = k
    · subst hkey
      simp [h]
    · have hne : (key == k) = false := beq_eq_false_iff_ne.2 hkey
      cases hk : chosen k <;> simp [List.lookup_cons, hk, hne, ih]

/-- A new key comes last. -/
theorem put_of_notMem {l : List (α × β)} {key : α} (h : key ∉ l.map Prod.fst) (value : β) :
    put key value l = l ++ [(key, value)] := by
  induction l with
  | nil => rfl
  | cons first rest ih =>
    rw [List.map_cons, List.mem_cons, not_or] at h
    have hne : (first.1 == key) = false := beq_eq_false_iff_ne.2 (Ne.symm h.1)
    rw [put, hne, ih h.2]
    rfl

/-- Where no key stands twice, every pair is found under its key. -/
theorem lookup_of_mem {l : List (α × β)} (h : (l.map Prod.fst).Nodup) {key : α} {value : β}
    (hmem : (key, value) ∈ l) : l.lookup key = some value := by
  induction l with
  | nil => exact nomatch hmem
  | cons first rest ih =>
    obtain ⟨k, v⟩ := first
    rw [List.map_cons, List.nodup_cons] at h
    rcases List.mem_cons.1 hmem with heq | hmem
    · obtain ⟨rfl, rfl⟩ := Prod.mk.inj heq
      exact List.lookup_cons_self
    · have hne : (key == k) = false :=
        beq_eq_false_iff_ne.2 fun heq => h.1 (List.mem_map.2 ⟨_, hmem, heq⟩)
      rw [List.lookup_cons, hne]
      exact ih h.2 hmem

/-- Nothing is found under a key that is not there. -/
theorem lookup_eq_none_iff {l : List (α × β)} {key : α} : l.lookup key = none ↔ key ∉ l.map Prod.fst := by
  rw [List.lookup_eq_none_iff, List.mem_map, not_exists]
  exact forall_congr' fun pair => by rw [not_and, bne_iff_ne, ne_comm]

/-- Where no key stands twice, the order does not matter to what is found. -/
theorem lookup_reverse {l : List (α × β)} (h : (l.map Prod.fst).Nodup) (key : α) :
    l.reverse.lookup key = l.lookup key := by
  have hreverse : (l.reverse.map Prod.fst).Nodup := by rwa [List.map_reverse, List.nodup_reverse]
  cases hlookup : l.lookup key with
  | none =>
    rw [lookup_eq_none_iff] at hlookup ⊢
    rwa [List.map_reverse, List.mem_reverse]
  | some value => exact lookup_of_mem hreverse (List.mem_reverse.2 (mem_of_lookup hlookup))

/-- Keys without repetition, in their order, and what is found under them make a list. -/
theorem eq_of_lookup {l l' : List (α × β)} (hkeys : l.map Prod.fst = l'.map Prod.fst)
    (h : (l.map Prod.fst).Nodup) (hlookup : ∀ key, l.lookup key = l'.lookup key) : l = l' := by
  refine List.ext_getElem (by simpa using congrArg List.length hkeys) fun i hi hi' => ?_
  have hkey : l[i].1 = l'[i].1 := by
    have heq := List.getElem_of_eq hkeys (show i < (l.map Prod.fst).length by simpa using hi)
    rwa [List.getElem_map, List.getElem_map] at heq
  have hvalue := (lookup_of_mem h (List.getElem_mem hi)).symm.trans
    ((hlookup _).trans (hkey ▸ lookup_of_mem (hkeys ▸ h) (List.getElem_mem hi')))
  exact Prod.ext hkey (Option.some.inj hvalue)

/-- The keys that are not known. -/
def newKeys (known keys : List α) : List α := keys.filter fun key => !known.contains key

section NewKeys

variable {known keys : List α} {key : α}

theorem not_contains_iff : (!known.contains key) = true ↔ key ∉ known := by
  rw [Bool.not_eq_true', ← Bool.not_eq_true, List.contains_iff_mem]

theorem mem_newKeys_iff : key ∈ newKeys known keys ↔ key ∈ keys ∧ key ∉ known := by
  rw [newKeys, List.mem_filter, not_contains_iff]

theorem newKeys_concat_of_mem (h : key ∈ known) : newKeys known (keys ++ [key]) = newKeys known keys := by
  rw [newKeys, List.filter_append, List.filter_singleton, List.contains_iff_mem.2 h]
  exact List.append_nil _

theorem newKeys_concat_of_notMem (h : key ∉ known) :
    newKeys known (keys ++ [key]) = newKeys known keys ++ [key] := by
  rw [newKeys, List.filter_append, List.filter_singleton, not_contains_iff.2 h]
  rfl

end NewKeys

variable [DecidableEq α]

/-- The keys after putting are the key that is put and those that were there. -/
theorem mem_keys_put {key other : α} {value : β} {l : List (α × β)} :
    other ∈ (put key value l).map Prod.fst ↔ other = key ∨ other ∈ l.map Prod.fst := by
  rw [map_fst_put]
  split_ifs with hmem
  · exact ⟨Or.inr, fun h => h.elim (fun h => h ▸ hmem) id⟩
  · rw [List.mem_append, List.mem_singleton, or_comm]

end Keyed
end TestBench
