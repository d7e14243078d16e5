/-
# Replacing a mark

A text falls into the occurrences of a mark and the gaps before, between and behind them.  Replacing the mark
keeps the gaps and puts something else for each occurrence.

| part of the text | part of the result |
| --- | --- |
| a gap: no occurrence begins in it | the same |
| the occurrence behind a gap | the replacement, whatever it holds |

`Replaced` says this of two texts; there is just one result, and it is what is computed
(`replaceAll_eq_iff`).
-/

import Mathlib.Data.List.Infix
import TestBench.Text.Basic

namespace TestBench

variable {α : Type} {mark by_ gap s t : List α}

/-- No occurrence of `mark` begins in `gap`, even if one follows. -/
def IsGap (mark gap : List α) : Prop := ¬ mark <:+: gap ++ mark.dropLast

/-- `t` is `s` with each occurrence of `mark` replaced by `by_`: the first occurrence is replaced, and then
those in what follows it. -/
inductive Replaced (mark by_ : List α) : List α → List α → Prop
  | rest {s : List α} (h : ¬ mark <:+: s) : Replaced mark by_ s s
  | next {gap s t : List α} (hgap : IsGap mark gap) (h : Replaced mark by_ s t) :
      Replaced mark by_ (gap ++ mark ++ s) (gap ++ by_ ++ t)

/-! ### The first occurrence -/

theorem isGap_nil (hmark : mark ≠ []) : IsGap mark [] := by
  intro h
  have hlength := h.length_le
  have hpos := List.length_pos_iff.2 hmark
  rw [List.nil_append, List.length_dropLast] at hlength
  omega

theorem dropLast_prefix_append (gap mark s : List α) : gap ++ mark.dropLast <+: gap ++ mark ++ s := by
  rw [List.append_assoc]
  exact (List.prefix_append_right_inj gap).2 ((List.dropLast_prefix mark).trans (List.prefix_append mark s))

/-- One element more is a gap if no occurrence begins there. -/
theorem isGap_cons_iff {a : α} (s : List α) :
    IsGap mark (a :: gap) ↔ IsGap mark gap ∧ ¬ mark <+: a :: (gap ++ mark ++ s) := by
  have hbegins : a :: (gap ++ mark.dropLast) <+: a :: (gap ++ mark ++ s) :=
    dropLast_prefix_append (a :: gap) mark s
  rw [IsGap, List.cons_append, List.infix_cons_iff, not_or, and_comm]
  refine and_congr_right fun _ => not_congr ⟨fun h => h.trans hbegins, fun h => ?_⟩
  -- Both are beginnings of one text, and the mark is no longer than the other.
  refine List.prefix_of_prefix_length_le h hbegins ?_
  rw [List.length_cons, List.length_append, List.length_dropLast]
  omega

/-- A text with an occurrence has a first one. -/
theorem exists_isGap_of_infix (hmark : mark ≠ []) (h : mark <:+: s) :
    ∃ gap rest, s = gap ++ mark ++ rest ∧ IsGap mark gap := by
  induction s with
  | nil => exact absurd (List.infix_nil.1 h) hmark
  | cons a s ih =>
    by_cases hprefix : mark <+: a :: s
    · obtain ⟨rest, hrest⟩ := hprefix
      exact ⟨[], rest, hrest.symm, isGap_nil hmark⟩
    · obtain ⟨gap, rest, rfl, hgap⟩ := ih ((List.infix_cons_iff.1 h).resolve_left hprefix)
      exact ⟨a :: gap, rest, rfl, (isGap_cons_iff rest).2 ⟨hgap, hprefix⟩⟩

theorem exists_replaced (hmark : mark ≠ []) (by_ s : List α) : ∃ t, Replaced mark by_ s t := by
  induction hlength : s.length using Nat.strongRecOn generalizing s with
  | ind n ih =>
    by_cases hinfix : mark <:+: s
    · obtain ⟨gap, rest, rfl, hgap⟩ := exists_isGap_of_infix hmark hinfix
      have hshorter : rest.length < n := by
        have hpos := List.length_pos_iff.2 hmark
        rw [List.length_append, List.length_append] at hlength
        omega
      obtain ⟨t, ht⟩ := ih rest.length hshorter rest rfl
      exact ⟨gap ++ by_ ++ t, .next hgap ht⟩
    · exact ⟨s, .rest hinfix⟩

/-! ### What is computed -/

section

variable [BEq α]

theorem replaceFrom_eq (mark by_ : List α) (skip : Nat) (s : List α) :
    replaceFrom mark by_ skip s = replaceAll mark by_ (s.drop skip) := by
  induction s generalizing skip with
  | nil => cases skip <;> simp [replaceAll, replaceFrom]
  | cons a s ih =>
    cases skip with
    | zero => rfl
    | succ skip => rw [replaceFrom, ih, List.drop_succ_cons]

theorem replaceAll_nil (mark by_ : List α) : replaceAll mark by_ [] = [] := by
  simp [replaceAll, replaceFrom]

variable [LawfulBEq α]

theorem replaceAll_cons {a : α} (h : ¬ mark <+: a :: s) :
    replaceAll mark by_ (a :: s) = a :: replaceAll mark by_ s := by
  rw [replaceAll, replaceFrom, if_neg (by rwa [List.isPrefixOf_iff_prefix])]
  rfl

/-- An occurrence is replaced, and what is put there is not looked at again. -/
theorem replaceAll_mark_append (hmark : mark ≠ []) (s : List α) :
    replaceAll mark by_ (mark ++ s) = by_ ++ replaceAll mark by_ s := by
  obtain ⟨a, tail, rfl⟩ := List.exists_cons_of_ne_nil hmark
  have hprefix : (a :: tail).isPrefixOf (a :: (tail ++ s)) = true :=
    List.isPrefixOf_iff_prefix.2 (List.prefix_append (a :: tail) s)
  have hdrop : (tail ++ s).drop ((a :: tail).length - 1) = s := List.drop_left' rfl
  rw [List.cons_append, replaceAll, replaceFrom, if_pos hprefix, replaceFrom_eq, hdrop]

theorem replaceAll_gap_append (hmark : mark ≠ []) (hgap : IsGap mark gap) (s : List α) :
    replaceAll mark by_ (gap ++ mark ++ s) = gap ++ by_ ++ replaceAll mark by_ s := by
  induction gap with
  | nil => exact replaceAll_mark_append hmark s
  | cons a gap ih =>
    obtain ⟨htail, hhead⟩ := (isGap_cons_iff s).1 hgap
    rw [List.cons_append, List.cons_append, replaceAll_cons hhead, ih htail]
    rfl

theorem replaceAll_of_not_infix (h : ¬ mark <:+: s) : replaceAll mark by_ s = s := by
  induction s with
  | nil => exact replaceAll_nil mark by_
  | cons a s ih =>
    rw [List.infix_cons_iff, not_or] at h
    rw [replaceAll_cons h.1, ih h.2]

/-- **What is computed is the text with each occurrence replaced**, and nothing else is. -/
theorem replaceAll_eq_iff (hmark : mark ≠ []) : replaceAll mark by_ s = t ↔ Replaced mark by_ s t := by
  have hcomputed : ∀ {s t : List α}, Replaced mark by_ s t → replaceAll mark by_ s = t := by
    intro s t h
    induction h with
    | rest h => exact replaceAll_of_not_infix h
    | next hgap _ ih => rw [replaceAll_gap_append hmark hgap, ih]
  refine ⟨?_, hcomputed⟩
  rintro rfl
  obtain ⟨t, ht⟩ := exists_replaced hmark by_ s
  rw [hcomputed ht]
  exact ht

end

end TestBench
