/-
# Where marks stand

A mark stands before some rest of the name (`Marks.Before`).  What a move does to the marks is said by these
rests.

| move | a mark stands before a rest afterwards iff one stood before |
| --- | --- |
| over a byte (`before_advance_iff`) | a byte of the kind and the rest |
| over any bytes (`before_spread_iff`) | some bytes of the kind and the rest |
| over given bytes (`before_foldl_advance_iff`) | these bytes and the rest |

At first the only mark stands before the whole name, and the pattern has matched if one stands before nothing
(`reachesEnd_iff`).
-/

import Mathlib.Data.List.Basic
import TestBench.Glob.Match

namespace TestBench
namespace Glob
namespace Marks

/-- A mark stands before this rest of the name. -/
inductive Before : Marks → (name rest : Bytes) → Prop
  | here {marks : Marks} {name : Bytes} : Before (true :: marks) name name
  | later {mark : Bool} {marks : Marks} {b : UInt8} {name rest : Bytes} (h : Before marks name rest) :
    Before (mark :: marks) (b :: name) rest

/-- There is a place before each byte of the name, and one behind the last. -/
def Fit (marks : Marks) (name : Bytes) : Prop := marks.length = name.length + 1

variable {marks : Marks} {mark : Bool} {name rest : Bytes} {b : UInt8} {p : UInt8 → Bool}

@[simp] theorem not_before_nil : ¬Before [] name rest := nofun

@[simp] theorem before_cons_nil_iff : Before (mark :: marks) [] rest ↔ mark = true ∧ rest = [] := by
  constructor
  · rintro ⟨⟩
    exact ⟨rfl, rfl⟩
  · rintro ⟨rfl, rfl⟩
    exact .here

@[simp] theorem before_cons_cons_iff :
    Before (mark :: marks) (b :: name) rest ↔ mark = true ∧ rest = b :: name ∨ Before marks name rest := by
  constructor
  · rintro (_ | h)
    · exact .inl ⟨rfl, rfl⟩
    · exact .inr h
  · rintro (⟨rfl, rfl⟩ | h)
    · exact .here
    · exact .later h

/-- The first mark stands before the whole name, the others where they would stand without it. -/
theorem before_cons_iff :
    Before (mark :: marks) name rest ↔ mark = true ∧ rest = name ∨ Before (false :: marks) name rest := by
  cases name <;> simp

/-- A mark stands before an end of the name. -/
theorem Before.suffix (h : Before marks name rest) : rest <:+ name := by
  induction h with
  | here => exact List.suffix_rfl
  | later _ ih => exact ih.trans (List.suffix_cons _ _)

/-! ### At first -/

theorem fit_first (name : Bytes) : Fit (first name) name := by simp [Fit, first]

theorem not_before_map_false (other : Bytes) : ¬Before (other.map fun _ => false) name rest := by
  induction other generalizing name with
  | nil => exact not_before_nil
  | cons c other ih =>
    cases name with
    | nil => simp
    | cons b name => simpa using ih

/-- At first there is one mark, before the whole name. -/
theorem before_first_iff : Before (first name) name rest ↔ rest = name := by
  rw [first, before_cons_iff]
  have hnone : ¬Before (false :: name.map fun _ => false) name rest :=
    not_before_map_false (0 :: name)
  simp only [hnone, or_false, true_and]

/-! ### Over a byte -/

theorem Fit.advance (h : Fit marks name) : Fit (advance p name marks) name := by
  rw [Fit] at h ⊢
  simp [Marks.advance, h]

/-- **Over a byte**: a mark stands before a rest iff one stood before a byte of the kind and the rest. -/
theorem before_advance_iff :
    Before (advance p name marks) name rest ↔ ∃ b, p b = true ∧ Before marks name (b :: rest) := by
  induction name generalizing marks with
  | nil => cases marks <;> simp [advance]
  | cons c name ih =>
    cases marks with
    | nil => simp [advance]
    | cons mark marks =>
      -- The places of the shorter name come behind two: the one that is left, and the one reached from it.
      have hadvance : advance p (c :: name) (mark :: marks)
          = false :: (mark && p c) :: List.zipWith (fun b mark => mark && p b) name marks := rfl
      have ih : Before (false :: List.zipWith (fun b mark => mark && p b) name marks) name rest ↔
          ∃ b, p b = true ∧ Before marks name (b :: rest) := ih
      rw [hadvance, before_cons_cons_iff, before_cons_iff, ih]
      simp only [before_cons_cons_iff, Bool.and_eq_true, List.cons.injEq]
      constructor
      · rintro (⟨h, -⟩ | ⟨⟨hmark, hp⟩, hrest⟩ | ⟨b, hp, h⟩)
        · exact nomatch h
        · exact ⟨c, hp, .inl ⟨hmark, rfl, hrest⟩⟩
        · exact ⟨b, hp, .inr h⟩
      · rintro ⟨b, hp, ⟨hmark, rfl, hrest⟩ | h⟩
        · exact .inr (.inl ⟨⟨hmark, hp⟩, hrest⟩)
        · exact .inr (.inr ⟨b, hp, h⟩)

/-! ### Over given bytes -/

theorem Fit.foldl_advance {bytes : Bytes} (h : Fit marks name) :
    Fit (bytes.foldl (fun marks b => Marks.advance (· == b) name marks) marks) name := by
  induction bytes generalizing marks with
  | nil => exact h
  | cons b bytes ih => exact ih h.advance

/-- **Over given bytes**: a mark stands before a rest iff one stood before these bytes and the rest. -/
theorem before_foldl_advance_iff {bytes : Bytes} :
    Before (bytes.foldl (fun marks b => advance (· == b) name marks) marks) name rest ↔
      Before marks name (bytes ++ rest) := by
  induction bytes generalizing marks with
  | nil => rfl
  | cons b bytes ih =>
    rw [List.foldl_cons, ih, before_advance_iff]
    simp

/-! ### Over any bytes -/

/-- Over bytes of the kind one comes from the name to the rest. -/
def Runs (p : UInt8 → Bool) (name rest : Bytes) : Prop :=
  ∃ run, (∀ b ∈ run, p b = true) ∧ run ++ rest = name

theorem runs_nil_iff : Runs p [] rest ↔ rest = [] := by
  constructor
  · rintro ⟨run, -, h⟩
    exact (List.append_eq_nil_iff.1 h).2
  · rintro rfl
    exact ⟨[], nofun, rfl⟩

theorem runs_cons_iff : Runs p (b :: name) rest ↔ rest = b :: name ∨ p b = true ∧ Runs p name rest := by
  constructor
  · rintro ⟨run, hrun, h⟩
    cases run with
    | nil => exact .inl h
    | cons b' run =>
      obtain ⟨rfl, hname⟩ := List.cons.inj h
      obtain ⟨hp, hrun⟩ := List.forall_mem_cons.1 hrun
      exact .inr ⟨hp, run, hrun, hname⟩
  · rintro (rfl | ⟨hp, run, hrun, rfl⟩)
    · exact ⟨[], nofun, rfl⟩
    · exact ⟨b :: run, List.forall_mem_cons.2 ⟨hp, hrun⟩, rfl⟩

theorem Fit.spreadFrom {carry : Bool} (h : Fit marks name) : Fit (spreadFrom p carry name marks) name := by
  fun_induction Marks.spreadFrom p carry name marks with
  | case1 carry b name mark marks here ih =>
    simp only [Fit, List.length_cons] at h ih ⊢
    rw [ih (by omega)]
  | case2 => simp [Fit]
  | case3 => exact h

theorem Fit.spread (h : Fit marks name) : Fit (spread p name marks) name := h.spreadFrom

/-- A run to a rest starts at the first mark or at a later one. -/
theorem exists_run_iff (Later : Bytes → Prop) :
    (∃ run, (∀ b ∈ run, p b = true) ∧ (mark = true ∧ run ++ rest = name ∨ Later run)) ↔
      mark = true ∧ Runs p name rest ∨ ∃ run, (∀ b ∈ run, p b = true) ∧ Later run := by
  constructor
  · rintro ⟨run, hrun, ⟨hmark, h⟩ | h⟩
    · exact .inl ⟨hmark, run, hrun, h⟩
    · exact .inr ⟨run, hrun, h⟩
  · rintro (⟨hmark, run, hrun, h⟩ | ⟨run, hrun, h⟩)
    · exact ⟨run, hrun, .inl ⟨hmark, h⟩⟩
    · exact ⟨run, hrun, .inr h⟩

/-- What spreads comes from the left or from a mark. -/
theorem before_spreadFrom_iff {carry : Bool} (hfit : Fit marks name) :
    Before (spreadFrom p carry name marks) name rest ↔
      carry = true ∧ Runs p name rest ∨
        ∃ run, (∀ b ∈ run, p b = true) ∧ Before marks name (run ++ rest) := by
  fun_induction spreadFrom p carry name marks with
  | case1 carry b name mark marks here ih =>
    have hmarks : Fit marks name := by simpa [Fit] using hfit
    simp only [before_cons_cons_iff]
    rw [ih hmarks, exists_run_iff, runs_cons_iff]
    -- Both ways the run starts where the mark and what comes from the left are joined.
    simp only [here, Bool.or_eq_true, Bool.and_eq_true]
    rw [and_assoc, ← or_assoc, ← and_or_left, ← or_assoc, ← or_and_right]
  | case2 carry mark marks =>
    have hmarks : (∃ run, (∀ b ∈ run, p b = true) ∧ mark = true ∧ run ++ rest = []) ↔
        mark = true ∧ Runs p [] rest := by
      simp only [Runs, and_left_comm (b := mark = true), exists_and_left]
    simp only [before_cons_nil_iff, hmarks, runs_nil_iff, Bool.or_eq_true, or_and_right]
  | case3 => simp [Fit] at hfit

/-- **Over any bytes**: a mark stands before a rest iff one stood before some bytes of the kind and the rest. -/
theorem before_spread_iff (hfit : Fit marks name) :
    Before (spread p name marks) name rest ↔
      ∃ run, (∀ b ∈ run, p b = true) ∧ Before marks name (run ++ rest) := by
  simp [spread, before_spreadFrom_iff hfit]

/-! ### At last -/

/-- The last place is that before nothing. -/
theorem reachesEnd_iff (hfit : Fit marks name) : marks.reachesEnd = true ↔ Before marks name [] := by
  induction name generalizing marks with
  | nil =>
    obtain ⟨mark, rfl⟩ := List.length_eq_one_iff.1 hfit
    simp [reachesEnd]
  | cons b name ih =>
    match marks, hfit with
    | mark :: next :: marks, hfit =>
      have hnext : Fit (next :: marks) name := by simpa [Fit] using hfit
      have hlast : reachesEnd (mark :: next :: marks) = reachesEnd (next :: marks) := rfl
      rw [hlast, ih hnext, before_cons_cons_iff]
      simp

end Marks
end Glob
end TestBench
