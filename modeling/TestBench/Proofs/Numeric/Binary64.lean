/-
# How far rounding leads away

The rational number that a floating-point number stands for (`Binary64.value`), and how close it is to the ratio that
it was rounded from: below `2 ^ k`, no more than half a unit of the last of 53 binary places away
(`abs_value_ofRatio_sub_le`).  Sums and quotients are rounded once more, from the exact sum and the exact quotient.
-/

import Mathlib.Algebra.Order.Field.Power
import Mathlib.Algebra.Order.Floor.Semifield
import Mathlib.Data.Rat.Floor
import Mathlib.Tactic.FieldSimp
import Mathlib.Tactic.Linarith
import Mathlib.Tactic.NormNum
import Mathlib.Tactic.Positivity
import Mathlib.Tactic.Ring
import TestBench.Numeric.Binary64

namespace TestBench
namespace Numeric

/-! ### Rounding to whole numbers -/

/-- Rounding to a whole number is half a unit off at most. -/
theorem abs_roundHalfEven_sub_le {num den : Nat} (hden : 0 < den) :
    |(roundHalfEven num den : ℚ) - num / den| ≤ 1 / 2 := by
  have hpos : (0 : ℚ) < den := by exact_mod_cast hden
  have hbelow : (2 * num : ℚ) ≤ 2 * (roundHalfEven num den * den) + den := by
    exact_mod_cast @roundHalfEven_le num den hden
  have habove : 2 * ((roundHalfEven num den : ℚ) * den) ≤ 2 * num + den := by
    exact_mod_cast @le_roundHalfEven num den hden
  have hdiff : (roundHalfEven num den : ℚ) - num / den = (roundHalfEven num den * den - num) / den := by
    field_simp
  rw [hdiff, abs_le, le_div_iff₀ hpos, div_le_iff₀ hpos]
  constructor <;> linarith

/-- No number below a whole one is rounded beyond it. -/
theorem roundHalfEven_le_of_lt {num den n : Nat} (hden : 0 < den) (h : num < n * den) :
    roundHalfEven num den ≤ n := by
  have hle := @le_roundHalfEven num den hden
  by_contra hlt
  have hmul : (n + 1) * den ≤ roundHalfEven num den * den := Nat.mul_le_mul_right den (by omega)
  rw [Nat.add_mul] at hmul
  omega

/-- Between an odd number and the next one, the half and all above it are rounded up. -/
theorem roundHalfEven_eq_succ_iff {num den n : Nat} (hden : 0 < den) (hodd : n % 2 = 1) (h : num < (n + 1) * den) :
    roundHalfEven num den = n + 1 ↔ (2 * n + 1) * den ≤ 2 * num := by
  constructor
  · intro heq
    have hle := @le_roundHalfEven num den hden
    rw [heq] at hle
    rw [Nat.add_mul] at hle ⊢
    rw [Nat.mul_assoc]
    omega
  · intro hle
    rw [Nat.add_mul, Nat.mul_assoc] at hle
    rw [Nat.add_mul] at h
    have hquotient : num / den = n := by
      rw [Nat.div_eq_iff hden]
      omega
    have hrest := Nat.div_add_mod num den
    rw [hquotient, Nat.mul_comm] at hrest
    rw [roundHalfEven, hquotient, hodd]
    split_ifs <;> omega

namespace Binary64

/-! ### Values -/

/-- The number as a rational one. -/
def value (x : Binary64) : ℚ := x.num / x.den

theorem den_pos (x : Binary64) : 0 < x.den := Nat.pow_pos (by decide)

theorem two_pow_toNat_div (e : Int) : (2 : ℚ) ^ e.toNat / 2 ^ (-e).toNat = 2 ^ e := by
  rcases Int.eq_nat_or_neg e with ⟨n, rfl | rfl⟩
  · simp
  · simp

theorem value_eq (x : Binary64) : x.value = x.mantissa * 2 ^ x.exponent := by
  rw [value, num, den, ← two_pow_toNat_div, Nat.pow_eq, Nat.pow_eq]
  push_cast
  rw [mul_div_assoc]

theorem scaled_ratio (num den : Nat) (e : Int) :
    ((scaled num den e).1 : ℚ) / (scaled num den e).2 = num / den / 2 ^ e := by
  rw [scaled, ← two_pow_toNat_div, Nat.pow_eq, Nat.pow_eq]
  push_cast
  rw [div_div_eq_mul_div, div_mul_eq_mul_div, div_div]

theorem scaled_den_pos {den : Nat} (num : Nat) (e : Int) (hden : 0 < den) : 0 < (scaled num den e).2 :=
  Nat.mul_pos hden (Nat.pow_pos (by decide))

theorem scaled_le_iff {num den : Nat} (hden : 0 < den) (e : Int) :
    (scaled num den e).2 ≤ (scaled num den e).1 ↔ (2 : ℚ) ^ e ≤ num / den := by
  have hpos : (0 : ℚ) < (scaled num den e).2 := by exact_mod_cast scaled_den_pos num e hden
  rw [← Nat.cast_le (α := ℚ), ← one_le_div hpos, scaled_ratio, one_le_div (zpow_pos (by norm_num) e)]

/-- **The binary logarithm** of a positive ratio: the power of two below it. -/
theorem binaryLog_bounds {num den : Nat} (hnum : 0 < num) (hden : 0 < den) :
    (2 : ℚ) ^ binaryLog num den ≤ num / den ∧ (num / den : ℚ) < 2 ^ (binaryLog num den + 1) := by
  have hd : (0 : ℚ) < den := by exact_mod_cast hden
  have hnumBelow : (2 : ℚ) ^ (num.log2 : Int) ≤ num := by exact_mod_cast Nat.log2_self_le hnum.ne'
  have hnumAbove : (num : ℚ) < 2 ^ ((num.log2 : Int) + 1) := by exact_mod_cast Nat.lt_log2_self (n := num)
  have hdenBelow : (2 : ℚ) ^ (den.log2 : Int) ≤ den := by exact_mod_cast Nat.log2_self_le hden.ne'
  have hdenAbove : (den : ℚ) < 2 ^ ((den.log2 : Int) + 1) := by exact_mod_cast Nat.lt_log2_self (n := den)
  -- The difference of the logarithms of both numbers is it, or one more.
  have hbelow : (2 : ℚ) ^ ((num.log2 : Int) - den.log2 - 1) ≤ num / den := by
    rw [sub_sub, zpow_sub₀ (by norm_num)]
    exact div_le_div₀ (by positivity) hnumBelow hd hdenAbove.le
  have habove : (num / den : ℚ) < 2 ^ ((num.log2 : Int) - den.log2 + 1) := by
    rw [sub_add_eq_add_sub, zpow_sub₀ (by norm_num)]
    exact div_lt_div₀ hnumAbove hdenBelow (by positivity) (by positivity)
  have hlog : binaryLog num den
      = if (scaled num den ((num.log2 : Int) - den.log2)).2 ≤ (scaled num den ((num.log2 : Int) - den.log2)).1
        then (num.log2 : Int) - den.log2 else (num.log2 : Int) - den.log2 - 1 := rfl
  rw [hlog]
  split_ifs with h
  · exact ⟨(scaled_le_iff hden _).1 h, habove⟩
  · rw [Int.sub_add_cancel]
    exact ⟨hbelow, lt_of_not_ge (mt (scaled_le_iff hden _).2 h)⟩

/-- A rounded ratio is a whole number of units of its last place, even where the mantissa was too large. -/
theorem value_ofRatio {num den : Nat} (hnum : 0 < num) (hden : 0 < den) :
    ∃ (e : Int) (n d : Nat), e = max minExponent (binaryLog num den - 52) ∧ 0 < d ∧
      (n : ℚ) / d = num / den / 2 ^ e ∧ (ofRatio num den).value = roundHalfEven n d * 2 ^ e := by
  obtain ⟨-, habove⟩ := binaryLog_bounds hnum hden
  generalize he : max minExponent (binaryLog num den - 52) = e
  have hpos := scaled_den_pos num e hden
  have hratio := scaled_ratio num den e
  refine ⟨e, (scaled num den e).1, (scaled num den e).2, rfl, hpos, hratio, ?_⟩
  have hround : ofRatio num den
      = if roundHalfEven (scaled num den e).1 (scaled num den e).2 < mantissaBound then
          { mantissa := roundHalfEven (scaled num den e).1 (scaled num den e).2, exponent := e }
        else { mantissa := roundHalfEven (scaled num den e).1 (scaled num den e).2 / 2, exponent := e + 1 } := by
    rw [ofRatio, if_neg hnum.ne', ← he]
  rw [hround]
  split_ifs with h
  · rw [value_eq]
  · -- Then the mantissa is the bound, which is even.
    have hexponent : binaryLog num den + 1 ≤ e + 53 := by omega
    have hbound : (num / den / 2 ^ e : ℚ) < mantissaBound := by
      rw [div_lt_iff₀ (by positivity)]
      calc
        (num / den : ℚ) < 2 ^ (binaryLog num den + 1) := habove
        _ ≤ 2 ^ (e + 53) := zpow_le_zpow_right₀ (by norm_num) hexponent
        _ = mantissaBound * 2 ^ e := by
          rw [zpow_add₀ (by norm_num), mul_comm]
          norm_num [mantissaBound]
    have hlt : (scaled num den e).1 < mantissaBound * (scaled num den e).2 := by
      rw [← hratio, div_lt_iff₀ (by exact_mod_cast hpos)] at hbound
      exact_mod_cast hbound
    have hmantissa : roundHalfEven (scaled num den e).1 (scaled num den e).2 = mantissaBound :=
      le_antisymm (roundHalfEven_le_of_lt hpos hlt) (not_lt.1 h)
    rw [hmantissa, value_eq, zpow_add_one₀ (by norm_num)]
    norm_num [mantissaBound]
    ring

/-- **Rounding a ratio below `2 ^ k`** is half a unit of the last of 53 places off at most. -/
theorem abs_value_ofRatio_sub_le {num den : Nat} (hden : 0 < den) {k : Int} (hk : -1021 ≤ k)
    (h : (num / den : ℚ) < 2 ^ k) : |(ofRatio num den).value - num / den| ≤ 2 ^ (k - 54) := by
  rcases Nat.eq_zero_or_pos num with rfl | hnum
  · have hzero : (ofRatio 0 den).value = 0 := by rw [ofRatio, if_pos rfl, value_eq, Nat.cast_zero, zero_mul]
    rw [hzero, Nat.cast_zero, zero_div, sub_zero, abs_zero]
    positivity
  · obtain ⟨e, n, d, he, hd, hratio, hvalue⟩ := value_ofRatio hnum hden
    have hlog : binaryLog num den < k :=
      (zpow_lt_zpow_iff_right₀ (by norm_num)).1 ((binaryLog_bounds hnum hden).1.trans_lt h)
    have hexponent : e ≤ k - 54 + 1 := by
      rw [he, minExponent]
      omega
    have hunit : (2 : ℚ) ^ e ≤ 2 ^ (k - 54) * 2 := by
      rw [← zpow_add_one₀ (by norm_num)]
      exact zpow_le_zpow_right₀ (by norm_num) hexponent
    have hpos : (0 : ℚ) < 2 ^ e := by positivity
    have hexact : (num / den : ℚ) = n / d * 2 ^ e := by
      rw [hratio, div_mul_cancel₀ _ hpos.ne']
    rw [hvalue, hexact, ← sub_mul, abs_mul, abs_of_pos hpos]
    calc
      |(roundHalfEven n d : ℚ) - n / d| * 2 ^ e ≤ 1 / 2 * 2 ^ e :=
        mul_le_mul_of_nonneg_right (abs_roundHalfEven_sub_le hd) hpos.le
      _ ≤ 2 ^ (k - 54) := by linarith

/-! ### Arithmetic -/

variable (x y : Binary64)

theorem value_nonneg : 0 ≤ x.value := by
  rw [value]
  positivity

theorem abs_value_ofNat_sub_le {n : Nat} {k : Int} (hk : -1021 ≤ k) (h : (n : ℚ) < 2 ^ k) :
    |(ofNat n).value - n| ≤ 2 ^ (k - 54) := by
  have hratio : (n / (1 : Nat) : ℚ) = n := by rw [Nat.cast_one, div_one]
  have hround := @abs_value_ofRatio_sub_le n 1 Nat.one_pos k hk (hratio.symm ▸ h)
  rwa [hratio] at hround

/-- A sum is rounded from the exact sum. -/
theorem abs_value_add_sub_le {k : Int} (hk : -1021 ≤ k) (h : x.value + y.value < 2 ^ k) :
    |(x.add y).value - (x.value + y.value)| ≤ 2 ^ (k - 54) := by
  have hx : (x.den : ℚ) ≠ 0 := by exact_mod_cast x.den_pos.ne'
  have hy : (y.den : ℚ) ≠ 0 := by exact_mod_cast y.den_pos.ne'
  have hratio : ((x.num * y.den + y.num * x.den : Nat) / (x.den * y.den : Nat) : ℚ) = x.value + y.value := by
    rw [value, value]
    push_cast
    field_simp
  rw [← hratio] at h ⊢
  exact abs_value_ofRatio_sub_le (Nat.mul_pos x.den_pos y.den_pos) hk h

/-- A quotient is rounded from the exact quotient. -/
theorem abs_value_div_sub_le (hy : 0 < y.num) {k : Int} (hk : -1021 ≤ k) (h : x.value / y.value < 2 ^ k) :
    |(x.div y).value - x.value / y.value| ≤ 2 ^ (k - 54) := by
  have hratio : ((x.num * y.den : Nat) / (x.den * y.num : Nat) : ℚ) = x.value / y.value := by
    rw [value, value]
    push_cast
    rw [div_div_div_eq]
  rw [← hratio] at h ⊢
  exact abs_value_ofRatio_sub_le (Nat.mul_pos x.den_pos hy) hk h

theorem exceeds_iff (n : Nat) : x.exceeds n = true ↔ (n : ℚ) < x.value := by
  have hpos : (0 : ℚ) < x.den := by exact_mod_cast x.den_pos
  rw [exceeds, decide_eq_true_iff, value, lt_div_iff₀ hpos]
  exact_mod_cast Iff.rfl

theorem floor_eq : x.floor = ⌊x.value⌋₊ := (Nat.floor_div_eq_div x.num x.den).symm

/-- What remains beyond the last multiple. -/
theorem remainder_div (n : Nat) :
    (x.remainder n : ℚ) / x.den = x.value - n * (x.floor / n : Nat) := by
  have hpos : (0 : ℚ) < x.den := by exact_mod_cast x.den_pos
  have hsplit := Nat.div_add_mod x.num (n * x.den)
  have hquotient : x.num / (n * x.den) = x.floor / n := by
    rw [floor, Nat.div_div_eq_div_mul, Nat.mul_comm]
  have hnum : (x.num : ℚ) = n * x.den * (x.floor / n : Nat) + x.remainder n := by
    rw [hquotient] at hsplit
    exact_mod_cast hsplit.symm
  rw [value, hnum]
  field_simp
  ring

end Binary64
end Numeric
end TestBench
