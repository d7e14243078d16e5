/-
# Ranges of characters

A property of characters that has no rule is a table: ascending, disjoint pairs of a first and a
last character number.
-/

import TestBench.Text.Basic

namespace TestBench
namespace Text

/-- `c` lies in one of the ranges. -/
def inRanges (ranges : List (Nat × Nat)) (c : Char) : Bool :=
  ranges.any fun (first, last) => first ≤ c.toNat && c.toNat ≤ last

theorem inRanges_iff {ranges : List (Nat × Nat)} {c : Char} :
    inRanges ranges c = true ↔ ∃ r ∈ ranges, r.1 ≤ c.toNat ∧ c.toNat ≤ r.2 := by
  simp [inRanges]

/-- A table is ascending and its ranges do not touch. -/
def IsTable : List (Nat × Nat) → Bool
  | [] => true
  | [(first, last)] => first ≤ last
  | (first, last) :: (first', last') :: rest =>
    first ≤ last && last < first' && IsTable ((first', last') :: rest)

end Text
end TestBench
