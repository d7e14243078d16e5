/-
# Numerals and their values

What the readers of decimal numerals accept, and with which value.

| numeral | value |
| --- | --- |
| ASCII digits, at least one | their value to the base ten, the first digit counting most (`value`) |
| `+` and digits | the same |
| `-` and digits | its negative |

`Denotes` is this table, and `readInt?_eq_some_iff` says that it is what is read.  What is written for an integer
is one of its numerals (`denotes_writeInt`).
-/

import Mathlib.Data.List.Induction
import Mathlib.Data.Nat.Digits.Defs
import Mathlib.Tactic.SplitIfs
import TestBench.Text.Decimal

namespace TestBench
namespace Decimal

/-- The value of digits, the first one counting most. -/
def value (s : Text) : Nat := Nat.ofDigits 10 (s.reverse.map digitValue)

theorem appendDigits_eq_value (s : Text) : appendDigits 0 s = value s := by
  induction s using List.reverseRecOn with
  | nil => rfl
  | append_singleton s c ih =>
    have hstep : appendDigits 0 (s ++ [c]) = 10 * appendDigits 0 s + digitValue c := by
      rw [appendDigits, List.foldl_append]
      rfl
    rw [hstep, ih, value, value, List.reverse_append, List.reverse_singleton, List.singleton_append, List.map_cons,
      Nat.ofDigits_cons, Nat.add_comm]

theorem appendDigits_cons (n : Nat) (c : Char) (s : Text) :
    appendDigits n (c :: s) = appendDigits (10 * n + digitValue c) s := by
  rw [appendDigits, List.foldl_cons, appendDigits]

theorem le_appendDigits (n : Nat) (s : Text) : n ≤ appendDigits n s := by
  induction s generalizing n with
  | nil => exact Nat.le_refl n
  | cons c s ih =>
    have hle := ih (10 * n + digitValue c)
    rw [appendDigits_cons]
    omega

theorem isDigit_of_mem_write {n : Nat} {c : Char} (h : c ∈ write n) : isDigit c = true :=
  List.all_eq_true.1 (all_isDigit_writeDigits (n + 1) n) c h

/-- Digits are read as their value. -/
theorem read?_eq_some_iff {s : Text} {n : Nat} :
    read? s = some n ↔ s ≠ [] ∧ (∀ c ∈ s, isDigit c = true) ∧ n = value s := by
  simp only [read?, appendDigits_eq_value, List.all_eq_true]
  split_ifs with h
  · rw [Option.some.injEq, eq_comm]
    exact ⟨fun heq => ⟨h.1, h.2, heq⟩, fun heq => heq.2.2⟩
  · exact ⟨nofun, fun hread => absurd ⟨hread.1, hread.2.1⟩ h⟩

/-- A text denotes an integer: digits, or digits behind a sign. -/
inductive Denotes : Text → Int → Prop
  | digits {s : Text} (hne : s ≠ []) (h : ∀ c ∈ s, isDigit c = true) : Denotes s (value s)
  | plus {s : Text} (hne : s ≠ []) (h : ∀ c ∈ s, isDigit c = true) : Denotes ('+' :: s) (value s)
  | minus {s : Text} (hne : s ≠ []) (h : ∀ c ∈ s, isDigit c = true) : Denotes ('-' :: s) (-value s)

theorem readInt?_of_digits {s : Text} (h : ∀ c ∈ s, isDigit c = true) :
    readInt? s = (read? s).map Int.ofNat := by
  rw [readInt?]
  · rintro rest rfl
    exact absurd (h _ List.mem_cons_self) (by decide)
  · rintro rest rfl
    exact absurd (h _ List.mem_cons_self) (by decide)

/-- **An integer is read off its numerals**, and off nothing else. -/
theorem readInt?_eq_some_iff {s : Text} {n : Int} : readInt? s = some n ↔ Denotes s n := by
  constructor
  · intro h
    unfold readInt? at h
    split at h
    · obtain ⟨k, hk, rfl⟩ := Option.map_eq_some_iff.1 h
      obtain ⟨hne, hdigits, rfl⟩ := read?_eq_some_iff.1 hk
      exact .plus hne hdigits
    · obtain ⟨k, hk, rfl⟩ := Option.map_eq_some_iff.1 h
      obtain ⟨hne, hdigits, rfl⟩ := read?_eq_some_iff.1 hk
      exact .minus hne hdigits
    · obtain ⟨k, hk, rfl⟩ := Option.map_eq_some_iff.1 h
      obtain ⟨hne, hdigits, rfl⟩ := read?_eq_some_iff.1 hk
      exact .digits hne hdigits
  · intro h
    cases h with
    | digits hne h => rw [readInt?_of_digits h, read?_eq_some_iff.2 ⟨hne, h, rfl⟩]; rfl
    | plus hne h => rw [readInt?, read?_eq_some_iff.2 ⟨hne, h, rfl⟩]; rfl
    | minus hne h => rw [readInt?, read?_eq_some_iff.2 ⟨hne, h, rfl⟩]; rfl

theorem denotes_write (n : Nat) : Denotes (write n) n := by
  obtain ⟨hne, hdigits, hvalue⟩ := read?_eq_some_iff.1 (read?_write n)
  nth_rewrite 2 [hvalue]
  exact .digits hne hdigits

/-- **What is written for an integer denotes it.** -/
theorem denotes_writeInt (n : Int) : Denotes (writeInt n) n := by
  cases n with
  | ofNat n => exact denotes_write n
  | negSucc n =>
    obtain ⟨hne, hdigits, hvalue⟩ := read?_eq_some_iff.1 (read?_write (n + 1))
    have hneg : Int.negSucc n = -(value (write (n + 1)) : Int) := by
      rw [← hvalue]
      rfl
    rw [writeInt, hneg]
    exact .minus hne hdigits

end Decimal
end TestBench
