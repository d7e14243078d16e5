/-
# Decimal numerals

Natural numbers written with the ten ASCII digits, most significant first and without leading
zeros, and read back.  Reading also takes leading zeros.

| function | rule |
| --- | --- |
| `Decimal.write` | the shortest numeral of a number |
| `Decimal.read?` | the value of a non-empty run of ASCII digits |
| `Decimal.readInt?` | the same with an optional sign before the digits |

`Decimal.read?_write` is the round trip.
-/

import TestBench.Text.Basic

namespace TestBench
namespace Decimal

/-- The ASCII digit of `d < 10`. -/
def digit (d : Nat) : Char := Char.ofNat (48 + d)

/-- An ASCII digit. -/
def isDigit (c : Char) : Bool := 48 ≤ c.toNat && c.toNat ≤ 57

/-- The value of an ASCII digit. -/
def digitValue (c : Char) : Nat := c.toNat - 48

/-- The digits of `n`, at most `places` of them. -/
def writeDigits : (places : Nat) → Nat → Text
  | 0, _ => []
  | places + 1, n => if n < 10 then [digit n] else writeDigits places (n / 10) ++ [digit (n % 10)]

/-- The numeral of `n`. -/
def write (n : Nat) : Text := writeDigits (n + 1) n

/-- The numeral of an integer: a minus sign before the numeral of its absolute value. -/
def writeInt : Int → Text
  | .ofNat n => write n
  | .negSucc n => '-' :: write (n + 1)

/-- The number that is written by appending the digits `s` to the numeral of `n`. -/
def appendDigits (n : Nat) (s : Text) : Nat := s.foldl (fun n c => 10 * n + digitValue c) n

/-- The value of a non-empty run of ASCII digits. -/
def read? (s : Text) : Option Nat :=
  if s ≠ [] ∧ s.all isDigit then some (appendDigits 0 s) else none

/-- The value of a non-empty run of ASCII digits after an optional sign. -/
def readInt? : Text → Option Int
  | '+' :: s => (read? s).map Int.ofNat
  | '-' :: s => (read? s).map fun n => -Int.ofNat n
  | s => (read? s).map Int.ofNat

/-- `s` behind as many zeros as it takes to have `places` characters. -/
def padZeros (places : Nat) (s : Text) : Text := List.replicate (places - s.length) '0' ++ s

theorem isDigit_digit {d : Nat} (h : d < 10) : isDigit (digit d) = true := by
  have : d = 0 ∨ d = 1 ∨ d = 2 ∨ d = 3 ∨ d = 4 ∨ d = 5 ∨ d = 6 ∨ d = 7 ∨ d = 8 ∨ d = 9 := by omega
  rcases this with rfl | rfl | rfl | rfl | rfl | rfl | rfl | rfl | rfl | rfl <;> decide

theorem digitValue_digit {d : Nat} (h : d < 10) : digitValue (digit d) = d := by
  have : d = 0 ∨ d = 1 ∨ d = 2 ∨ d = 3 ∨ d = 4 ∨ d = 5 ∨ d = 6 ∨ d = 7 ∨ d = 8 ∨ d = 9 := by omega
  rcases this with rfl | rfl | rfl | rfl | rfl | rfl | rfl | rfl | rfl | rfl <;> decide

theorem writeDigits_ne_nil {places n : Nat} (h : 0 < places) : writeDigits places n ≠ [] := by
  cases places with
  | zero => omega
  | succ places => unfold writeDigits; split <;> simp

/-- A numeral is a run of ASCII digits. -/
theorem all_isDigit_writeDigits (places n : Nat) : (writeDigits places n).all isDigit = true := by
  induction places generalizing n with
  | zero => rfl
  | succ places ih =>
    unfold writeDigits
    split
    · next h => simp [isDigit_digit h]
    · simp only [List.all_append, ih, Bool.true_and, List.all_cons, List.all_nil, Bool.and_true]
      exact isDigit_digit (Nat.mod_lt _ (by omega))

theorem appendDigits_writeDigits {places n : Nat} (h : n < places) :
    appendDigits 0 (writeDigits places n) = n := by
  induction places generalizing n with
  | zero => omega
  | succ places ih =>
    unfold writeDigits
    split
    · next hn => simp [appendDigits, digitValue_digit hn]
    · next hn =>
      have hd : digitValue (digit (n % 10)) = n % 10 := digitValue_digit (Nat.mod_lt _ (by omega))
      have hq : appendDigits 0 (writeDigits places (n / 10)) = n / 10 := ih (by omega)
      unfold appendDigits at *
      rw [List.foldl_append, hq]
      simp only [List.foldl_cons, List.foldl_nil, hd]
      omega

/-- A numeral is not empty. -/
theorem write_ne_nil (n : Nat) : write n ≠ [] := writeDigits_ne_nil (by omega)

/-- **What is written reads back.** -/
theorem read?_write (n : Nat) : read? (write n) = some n := by
  unfold read?
  rw [if_pos ⟨write_ne_nil n, all_isDigit_writeDigits _ _⟩]
  exact congrArg some (appendDigits_writeDigits (by omega))

end Decimal
end TestBench
