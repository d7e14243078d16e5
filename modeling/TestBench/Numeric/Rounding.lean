/-
# Rounding a quotient

A quotient of natural numbers rounded to the nearest whole number; a tie goes to the even neighbour.
-/

namespace TestBench
namespace Numeric

/-- `num / den` rounded to the nearest natural number, a tie to the even one. -/
def roundHalfEven (num den : Nat) : Nat :=
  let quotient := num / den
  let rest := num % den
  if 2 * rest < den then quotient
  else if den < 2 * rest then quotient + 1
  else quotient + quotient % 2

/-- The result is at most half a unit off. -/
theorem roundHalfEven_le {num den : Nat} (h : 0 < den) :
    2 * num ≤ 2 * (roundHalfEven num den * den) + den := by
  have e := Nat.div_add_mod num den
  have r := Nat.mod_lt num h
  have c : den * (num / den) = num / den * den := Nat.mul_comm _ _
  unfold roundHalfEven
  simp only []
  split
  · omega
  · split
    · rw [Nat.add_mul]; omega
    · rw [Nat.add_mul]; omega

theorem le_roundHalfEven {num den : Nat} (h : 0 < den) :
    2 * (roundHalfEven num den * den) ≤ 2 * num + den := by
  have e := Nat.div_add_mod num den
  have r := Nat.mod_lt num h
  have c : den * (num / den) = num / den * den := Nat.mul_comm _ _
  unfold roundHalfEven
  simp only []
  split
  · omega
  · split
    · rw [Nat.add_mul]; omega
    · rcases Nat.mod_two_eq_zero_or_one (num / den) with h2 | h2 <;> rw [h2, Nat.add_mul] <;> omega

end Numeric
end TestBench
