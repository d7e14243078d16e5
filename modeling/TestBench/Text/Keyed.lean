/-
# Keyed lists

A list of pairs in which every key stands once: a finite map that remembers the order in which the
keys came.  A key keeps its place when its value changes.
-/

namespace TestBench
namespace Keyed

variable {α β : Type}

/-- The list with `value` in the place of the value of `key`, or behind all if there is none. -/
def put [BEq α] (key : α) (value : β) : List (α × β) → List (α × β)
  | [] => [(key, value)]
  | (k, v) :: rest => if k == key then (k, value) :: rest else (k, v) :: put key value rest

/-- What is found under a key stands in the list with it. -/
theorem mem_of_lookup [BEq α] [LawfulBEq α] {l : List (α × β)} {key : α} {value : β}
    (h : l.lookup key = some value) : (key, value) ∈ l := by
  obtain ⟨before, behind, rfl, -⟩ := List.lookup_eq_some_iff.1 h
  exact List.mem_append_right _ List.mem_cons_self

variable [DecidableEq α] [BEq α] [LawfulBEq α]

/-- **Putting changes the value of one key.** -/
theorem lookup_put (key : α) (value : β) (other : α) (l : List (α × β)) :
    (put key value l).lookup other = if other = key then some value else l.lookup other := by
  induction l with
  | nil =>
    simp only [put, List.lookup_cons, List.lookup_nil]
    by_cases h : other = key
    · simp [h]
    · simp [h, show (other == key) = false by simpa using h]
  | cons pair rest ih =>
    obtain ⟨k, v⟩ := pair
    unfold put
    by_cases hk : k = key
    · subst hk
      by_cases h : other = k
      · simp [h]
      · simp [h, List.lookup_cons, show (other == k) = false by simpa using h]
    · rw [if_neg (by simpa using hk)]
      simp only [List.lookup_cons]
      by_cases h : other = k
      · subst h
        simp [hk]
      · simp [show (other == k) = false by simpa using h, ih]

/-- A new key comes last, and a known one keeps its place. -/
theorem map_fst_put (key : α) (value : β) (l : List (α × β)) :
    (put key value l).map Prod.fst
      = if key ∈ l.map Prod.fst then l.map Prod.fst else l.map Prod.fst ++ [key] := by
  induction l with
  | nil => simp [put]
  | cons pair rest ih =>
    obtain ⟨k, v⟩ := pair
    unfold put
    by_cases hk : k = key
    · simp [hk]
    · rw [if_neg (by simpa using hk), List.map_cons, ih]
      by_cases hm : key ∈ rest.map Prod.fst
      · simp [hm]
      · have : key ≠ k := fun h => hk h.symm
        simp [hm, this]

/-- Putting leaves the keys without repetition. -/
theorem nodup_put {l : List (α × β)} (h : (l.map Prod.fst).Nodup) (key : α) (value : β) :
    ((put key value l).map Prod.fst).Nodup := by
  rw [map_fst_put]
  by_cases hmem : key ∈ l.map Prod.fst
  · rwa [if_pos hmem]
  · rw [if_neg hmem, List.nodup_append]
    refine ⟨h, by simp, fun other hother new hnew heq => hmem ?_⟩
    rw [List.mem_singleton] at hnew
    exact hnew ▸ heq ▸ hother

end Keyed
end TestBench
