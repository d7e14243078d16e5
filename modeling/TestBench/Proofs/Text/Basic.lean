/-
# Parts of texts

What a text has before a mark, behind a known beginning, and between all marks: each is said in terms of how the text
is put together.
-/

import Mathlib.Data.List.TakeWhile
import Mathlib.Tactic.SplitIfs
import TestBench.Text.Basic

namespace TestBench

variable {α : Type} [BEq α] [LawfulBEq α] {mark : α} {s run : List α}

theorem takeWhile_ne_append (h : mark ∉ run) (rest : List α) :
    (run ++ mark :: rest).takeWhile (· != mark) = run := by
  have hrun : ∀ a ∈ run, (a != mark) = true := fun a ha => bne_iff_ne.2 fun heq => h (heq ▸ ha)
  rw [List.takeWhile_append_of_pos hrun, List.takeWhile_cons_of_neg (by simp), List.append_nil]

/-- What stands before the first mark, or all if there is none. -/
theorem takeWhile_ne_eq_iff :
    s.takeWhile (· != mark) = run ↔ mark ∉ run ∧ (s = run ∨ ∃ rest, s = run ++ mark :: rest) := by
  constructor
  · rintro rfl
    refine ⟨fun hmem => ?_, ?_⟩
    · have hne := List.mem_takeWhile_imp hmem
      exact bne_iff_ne.1 hne rfl
    have hs := List.takeWhile_append_dropWhile (p := (· != mark)) (l := s)
    have hnot := List.head?_dropWhile_not (· != mark) s
    cases hrest : s.dropWhile (· != mark) with
    | nil => exact .inl (by rw [hrest, List.append_nil] at hs; exact hs.symm)
    | cons a rest =>
      rw [hrest] at hnot hs
      have ha : a = mark := by simpa using hnot
      exact .inr ⟨rest, ha ▸ hs.symm⟩
  · rintro ⟨h, rfl | ⟨rest, rfl⟩⟩
    · exact List.takeWhile_eq_self_iff.2 fun a ha => bne_iff_ne.2 fun heq => h (heq ▸ ha)
    · exact takeWhile_ne_append h rest

/-- A text has a rest behind `head` if it begins so. -/
theorem dropHead?_eq_some_iff {head rest : List α} : dropHead? head s = some rest ↔ s = head ++ rest := by
  refine ⟨eq_append_of_dropHead?, ?_⟩
  rintro rfl
  exact dropHead?_append head rest

section

variable {p : α → Bool}

omit [BEq α] [LawfulBEq α]

theorem splitAtFirst?_append (h : ∀ a ∈ s, p a = false) (hmark : p mark = true) (rest : List α) :
    splitAtFirst? p (s ++ mark :: rest) = some (s, rest) := by
  induction s with
  | nil => simp [splitAtFirst?, hmark]
  | cons a s ih =>
    have ha := h a List.mem_cons_self
    simp [splitAtFirst?, ha, ih fun b hb => h b (List.mem_cons_of_mem a hb)]

theorem splitAtFirst?_of_forall_not (h : ∀ a ∈ s, p a = false) : splitAtFirst? p s = none := by
  induction s with
  | nil => rfl
  | cons a s ih =>
    have ha := h a List.mem_cons_self
    simp [splitAtFirst?, ha, ih fun b hb => h b (List.mem_cons_of_mem a hb)]

/-- The pieces between marks hold nothing new, and no mark. -/
theorem mem_of_mem_splitAll {piece : List α} (hpiece : piece ∈ splitAll p s) {a : α} (ha : a ∈ piece) :
    a ∈ s ∧ p a = false := by
  induction s generalizing piece with
  | nil =>
    obtain rfl := List.mem_singleton.1 hpiece
    exact absurd ha List.not_mem_nil
  | cons b s ih =>
    rw [splitAll] at hpiece
    obtain ⟨first, pieces, hs⟩ := List.exists_cons_of_ne_nil (splitAll_ne_nil p s)
    rw [hs] at hpiece ih
    split_ifs at hpiece with hb
    · rcases List.mem_cons.1 hpiece with rfl | hpiece
      · exact absurd ha List.not_mem_nil
      · exact (ih hpiece ha).imp_left (List.mem_cons_of_mem b)
    · rcases List.mem_cons.1 hpiece with rfl | hpiece
      · rcases List.mem_cons.1 ha with rfl | ha
        · exact ⟨List.mem_cons_self, eq_false_of_ne_true hb⟩
        · exact (ih List.mem_cons_self ha).imp_left (List.mem_cons_of_mem b)
      · exact (ih (List.mem_cons_of_mem first hpiece) ha).imp_left (List.mem_cons_of_mem b)

/-- What is joined holds nothing new but the mark. -/
theorem mem_of_mem_joinWith {mark : List α} {items : List (List α)} {a : α} (h : a ∈ joinWith mark items) :
    a ∈ mark ∨ ∃ item ∈ items, a ∈ item := by
  fun_induction joinWith mark items with
  | case1 => simp at h
  | case2 item => exact .inr ⟨item, List.mem_singleton_self item, h⟩
  | case3 item next rest ih =>
    rcases List.mem_append.1 h with h | h
    · rcases List.mem_append.1 h with h | h
      · exact .inr ⟨item, List.mem_cons_self, h⟩
      · exact .inl h
    · rcases ih h with h | ⟨other, hother, h⟩
      · exact .inl h
      · exact .inr ⟨other, List.mem_cons_of_mem item hother, h⟩

/-- What is joined with a mark is split at it again. -/
theorem splitAll_joinWith (hmark : p mark = true) {items : List (List α)} (hne : items ≠ [])
    (hitems : ∀ item ∈ items, ∀ a ∈ item, p a = false) : splitAll p (joinWith [mark] items) = items := by
  induction items with
  | nil => exact absurd rfl hne
  | cons item items ih =>
    have hitem := splitAll_of_forall_not (hitems item List.mem_cons_self)
    cases items with
    | nil => exact hitem
    | cons next items =>
      have hrest := ih (List.cons_ne_nil _ _) fun item hmem => hitems item (List.mem_cons_of_mem _ hmem)
      rw [joinWith, List.append_assoc, List.singleton_append, splitAll_append_cons hmark, hitem, hrest]
      rfl

end

end TestBench
