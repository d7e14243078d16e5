/-
# The order of texts

Texts are ordered by the numbers of their characters, and this is the order of their bytes: a character with a
smaller number has bytes that come first, whatever follows (`Utf8.encodeChar_append_lt`).  So of two different
texts the one with the smaller bytes is the smaller one (`Text.le_iff_encode_lt`).

The texts that occur in a list, made ascending (`Text.sortedSet`), have bytes that strictly ascend
(`Text.ascends_sortedSet`).  There is only one such list of given texts (`Text.Ascends.eq_of_mem_iff`), so neither
their order nor their repetition matters.
-/

import Mathlib.Tactic.ByContra
import TestBench.Proofs.Text.Utf8

namespace TestBench

namespace Utf8

theorem cons_lt_cons_iff {a b : UInt8} {s t : Bytes} :
    a :: s < b :: t ↔ a.toNat < b.toNat ∨ a.toNat = b.toNat ∧ s < t := by
  rw [List.cons_lt_cons_iff, UInt8.lt_iff_toNat_lt, UInt8.toNat_inj]

/-- **A smaller character has smaller bytes**, whatever stands behind. -/
theorem encodeChar_append_lt {a b : Char} (h : a.toNat < b.toNat) (s t : Bytes) :
    encodeChar a ++ s < encodeChar b ++ t := by
  have hvalid := toNat_valid b
  -- The first bytes decide if the characters have different numbers of bytes, and some byte does otherwise.
  rcases encodeChar_cases a with ⟨p, ha⟩ | ⟨p, q, ha⟩ | ⟨p, q, r, ha⟩ | ⟨p, q, r, u, ha⟩ <;>
    rcases encodeChar_cases b with ⟨p', hb⟩ | ⟨p', q', hb⟩ | ⟨p', q', r', hb⟩ | ⟨p', q', r', u', hb⟩ <;>
    rw [ha, hb] <;>
    simp only [encodeChar_eq_single_iff, encodeChar_eq_pair_iff, encodeChar_eq_triple_iff,
      encodeChar_eq_quadruple_iff] at ha hb <;>
    simp only [List.cons_append, List.nil_append, cons_lt_cons_iff] <;>
    omega

end Utf8

namespace Text

open Utf8 (encode)

variable {s t : Text}

theorem encode_nil_lt_cons (c : Char) (s : Text) : encode [] < encode (c :: s) := by
  rw [Utf8.encode_nil, Utf8.encode_cons]
  rcases Utf8.encodeChar_cases c with ⟨_, h⟩ | ⟨_, _, h⟩ | ⟨_, _, _, h⟩ | ⟨_, _, _, _, h⟩ <;>
    rw [h] <;> exact List.nil_lt_cons _ _

theorem encode_lt_of_le (h : le s t = true) (hne : s ≠ t) : encode s < encode t := by
  induction s generalizing t with
  | nil =>
    cases t with
    | nil => exact absurd rfl hne
    | cons b t => exact encode_nil_lt_cons b t
  | cons a s ih =>
    cases t with
    | nil => exact nomatch h
    | cons b t =>
      rw [le] at h
      rw [Utf8.encode_cons, Utf8.encode_cons]
      split_ifs at h with hab
      · subst hab
        exact List.append_left_lt (ih h fun heq => hne (congrArg _ heq))
      · exact Utf8.encodeChar_append_lt (of_decide_eq_true h) _ _

theorem encode_lt_of_not_le (h : le s t = false) : encode t < encode s := by
  induction s generalizing t with
  | nil =>
    rw [le] at h
    exact nomatch h
  | cons a s ih =>
    cases t with
    | nil => exact encode_nil_lt_cons a s
    | cons b t =>
      rw [le] at h
      rw [Utf8.encode_cons, Utf8.encode_cons]
      split_ifs at h with hab
      · subst hab
        exact List.append_left_lt (ih h)
      · have hle : b.toNat ≤ a.toNat := Nat.not_lt.1 (of_decide_eq_false h)
        have hne : b.toNat ≠ a.toNat := fun heq => hab (Char.toNat_inj.1 heq.symm)
        exact Utf8.encodeChar_append_lt (Nat.lt_of_le_of_ne hle hne) _ _

/-- **The order of texts is that of their bytes.** -/
theorem le_iff_encode_lt (hne : s ≠ t) : le s t = true ↔ encode s < encode t := by
  refine ⟨fun h => encode_lt_of_le h hne, fun h => ?_⟩
  by_contra hle
  exact List.lt_irrefl _ (List.lt_trans h (encode_lt_of_not_le (Bool.eq_false_iff.2 hle)))

/-! ### Ascending texts -/

/-- The bytes of the texts strictly ascend. -/
def Ascends (l : List Text) : Prop := l.Pairwise fun s t => encode s < encode t

theorem Ascends.insertSorted {l : List Text} (h : Ascends l) (s : Text) : Ascends (insertSorted s l) := by
  induction l with
  | nil => exact List.pairwise_singleton _ _
  | cons t rest ih =>
    obtain ⟨hfirst, hrest⟩ := List.pairwise_cons.1 h
    rw [Text.insertSorted]
    split_ifs with heq hle
    · exact h
    · have hlt := (le_iff_encode_lt heq).1 hle
      exact h.cons (List.forall_mem_cons.2 ⟨hlt, fun u hu => List.lt_trans hlt (hfirst u hu)⟩)
    · refine (ih hrest).cons fun u hu => ?_
      rcases mem_insertSorted.1 hu with rfl | hu
      · exact encode_lt_of_not_le (Bool.eq_false_iff.2 hle)
      · exact hfirst u hu

/-- **A set of texts ascends.** -/
theorem ascends_sortedSet (l : List Text) : Ascends (sortedSet l) := by
  induction l with
  | nil => exact List.Pairwise.nil
  | cons s l ih => exact ih.insertSorted s

/-- What ascends has no text twice. -/
theorem Ascends.nodup {l : List Text} (h : Ascends l) : l.Nodup := by
  refine List.Pairwise.imp (fun hlt => ?_) h
  rintro rfl
  exact List.lt_irrefl _ hlt

/-- **There is one way in which given texts ascend.** -/
theorem Ascends.eq_of_mem_iff {l l' : List Text} (h : Ascends l) (h' : Ascends l')
    (hmem : ∀ s, s ∈ l ↔ s ∈ l') : l = l' := by
  have hperm := (List.perm_ext_iff_of_nodup h.nodup h'.nodup).2 hmem
  refine hperm.eq_of_pairwise (fun s t _ _ hst hts => ?_) h h'
  exact absurd (List.lt_trans hst hts) (List.lt_irrefl _)

end Text
end TestBench
