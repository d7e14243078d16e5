/-
# Widths next to spaces

A few characters take a column back from what stands behind them, so the columns of a text are counted with
a sign.  What can be taken back was counted before (`Follower.reserve`), and the sum never falls below zero:

| before | loses | which was counted for |
| --- | ---: | --- |
| the sign that puts a Khmer letter below another | 1 | the letter |
| a Tifinagh consonant before a consonant joiner | 1 | the joiner |
| half of a flag before an odd number of halves and a joined picture | 1 | a half |

A space takes one column next to anything.  The widths of what stands before and behind spaces therefore add
up (`width_append_spaces_append`), which those of two texts in general do not.
-/

import Mathlib
import TestBench.Text.Width

namespace TestBench
namespace Text

/-! ### Columns that are taken back -/

/-- The columns that a character before the follower may take back. -/
def Follower.reserve : Follower → Int
  | khmerLetter | boundTifinagh | joinedFlagHalf | joinedFlagOdd => 1
  | pictureSelector behind | textSelector behind => behind.reserve
  | _ => 0

theorem Follower.reserve_nonneg (f : Follower) : 0 ≤ f.reserve := by
  induction f with
  | pictureSelector behind ih | textSelector behind ih => exact ih
  | _ => decide

theorem Follower.reserve_behindJoiner (f : Follower) : f.behindJoiner.reserve ≤ f.reserve := by
  cases f with
  | pictureSelector | textSelector => exact le_refl _
  | _ => decide

theorem Follower.reserve_ite_le {p : Prop} [Decidable p] {f g : Follower} {columns : Int}
    (hf : p → f.reserve ≤ columns) (hg : g.reserve ≤ columns) : (if p then f else g).reserve ≤ columns := by
  split_ifs with hp
  · exact hf hp
  · exact hg

/-- A range that no range of the table meets holds no character of the table. -/
theorem inRanges_eq_false {ranges : List (Nat × Nat)} {first last : Nat} {c : Char}
    (hapart : (ranges.all fun r => decide (r.2 < first) || decide (last < r.1)) = true)
    (hfirst : first ≤ c.toNat) (hlast : c.toNat ≤ last) : inRanges ranges c = false := by
  rw [Bool.eq_false_iff]
  intro hc
  obtain ⟨r, hr, hlo, hhi⟩ := inRanges_iff.1 hc
  have hout := List.all_eq_true.1 hapart r hr
  rw [Bool.or_eq_true, decide_eq_true_eq, decide_eq_true_eq] at hout
  omega

theorem ownWidth_nonneg (c : Char) : 0 ≤ ownWidth c := by
  unfold ownWidth
  dsimp only
  split_ifs <;> decide

/-- The Khmer letters that can stand below another have a column. -/
theorem one_le_ownWidth_of_khmer {c : Char} (hfirst : 0x1780 ≤ c.toNat) (hlast : c.toNat ≤ 0x17AF) :
    1 ≤ ownWidth c := by
  have hignorable : inRanges ignorable c = false := inRanges_eq_false (by decide +kernel) hfirst hlast
  have hextend : isGraphemeExtend c = false := inRanges_eq_false (by decide +kernel) hfirst hlast
  have hvisible : isInvisible c = false := by
    rw [isInvisible, hignorable, hextend]
    rfl
  unfold ownWidth
  dsimp only
  rw [hvisible]
  split_ifs with _ _ _ _ hfalse
  · decide
  · decide
  · decide
  · decide
  · exact absurd hfalse (by decide)
  · decide
  · decide

/-- What a character adds before `f`, and becomes there, is covered: no more may be taken back from it than
from `f` and what it adds. -/
def Covers (f : Follower) (r : Int × Follower) : Prop := r.2.reserve ≤ f.reserve + r.1

theorem covers_of_le {f g : Follower} {added : Int} (hadded : 0 ≤ added) (hg : g.reserve ≤ f.reserve) :
    Covers f (added, g) := by
  show g.reserve ≤ f.reserve + added
  omega

/-- A character by itself reserves no more than its own columns. -/
theorem reserve_asFollower (c : Char) : (asFollower c).reserve ≤ ownWidth c := by
  have hown : 0 ≤ ownWidth c := ownWidth_nonneg c
  unfold asFollower
  -- Only the Khmer letter reserves a column; the characters around it in the table reserve none.
  iterate 9 refine Follower.reserve_ite_le (fun _ => hown) ?_
  refine Follower.reserve_ite_le (fun hkhmer => ?_) ?_
  · rw [Bool.and_eq_true, Bool.and_eq_true, decide_eq_true_eq, decide_eq_true_eq] at hkhmer
    exact one_le_ownWidth_of_khmer hkhmer.1.1 hkhmer.1.2
  iterate 6 refine Follower.reserve_ite_le (fun _ => hown) ?_
  exact hown

theorem covers_alone (c : Char) (f : Follower) : Covers f (ownWidth c, asFollower c) := by
  have hfollower := reserve_asFollower c
  have hreserve := f.reserve_nonneg
  show (asFollower c).reserve ≤ f.reserve + ownWidth c
  omega

theorem covers_of_widthInSequence? {c : Char} {f : Follower} {r : Int × Follower}
    (h : widthInSequence? c f = some r) : Covers f r := by
  unfold Covers
  cases f with
  | plain | joinedKeycap | pictureSelector | textSelector | lamed | buginese => cases h
  | _ =>
    unfold widthInSequence? at h
    dsimp only at h
    split_ifs at h <;> obtain rfl := Option.some.inj h <;> decide

/-- Behind a selector a sequence goes on as without it. -/
theorem covers_behindSelector (c : Char) {f behind : Follower} (hf : f.reserve = behind.reserve) :
    Covers f (if behind.isLigature = true then (widthInSequence? c behind).getD (ownWidth c, asFollower c)
      else (ownWidth c, asFollower c)) := by
  refine iteInduction (fun _ => ?_) fun _ => covers_alone c f
  cases hr : widthInSequence? c behind with
  | none => exact covers_alone c f
  | some r =>
    have hcovers := covers_of_widthInSequence? hr
    unfold Covers at hcovers ⊢
    rw [hf]
    exact hcovers

/-- **A step of the measuring covers itself.** -/
theorem covers_widthBefore (c : Char) (f : Follower) : Covers f (widthBefore c f) := by
  have hreserve : 0 ≤ f.reserve := f.reserve_nonneg
  unfold widthBefore
  dsimp only
  split
  -- The cases are those of the follower: a picture selector, a text selector, anything else.
  next behind =>
    refine iteInduction (fun _ => covers_of_le (le_refl 0) hreserve) fun _ => ?_
    refine iteInduction (fun _ => covers_of_le ?_ hreserve) fun _ => covers_behindSelector c rfl
    split_ifs <;> decide
  next behind =>
    exact iteInduction (fun _ => covers_of_le (by decide) hreserve) fun _ => covers_behindSelector c rfl
  next =>
    have hselected {p : Prop} [Decidable p] : (if p then f else .plain).reserve ≤ f.reserve :=
      Follower.reserve_ite_le (fun _ => le_refl f.reserve) hreserve
    refine iteInduction (fun _ => covers_of_le (le_refl 0) hselected) fun _ => ?_
    refine iteInduction (fun _ => covers_of_le (le_refl 0) hselected) fun _ => ?_
    cases hr : widthInSequence? c f with
    | some r => exact covers_of_widthInSequence? hr
    | none =>
      refine iteInduction (fun _ => covers_alone c f) fun _ => ?_
      refine iteInduction (fun _ => covers_of_le (le_refl 0) f.reserve_behindJoiner) fun _ => ?_
      exact iteInduction (fun _ => covers_of_le (le_refl 0) (le_refl _)) fun _ => covers_alone c f

theorem widthFrom_cons (c : Char) (text : Text) :
    widthFrom (c :: text) = ((widthFrom text).1 + (widthBefore c (widthFrom text).2).1,
      (widthBefore c (widthFrom text).2).2) := rfl

/-- The columns of a text hold what may still be taken back. -/
theorem reserve_widthFrom (text : Text) : (widthFrom text).2.reserve ≤ (widthFrom text).1 := by
  induction text with
  | nil => exact le_refl 0
  | cons c text ih =>
    have hstep := covers_widthBefore c (widthFrom text).2
    unfold Covers at hstep
    rw [widthFrom_cons]
    dsimp only
    omega

/-- **No text has fewer than no columns**: the sum of the signed columns is the width. -/
theorem widthFrom_fst (text : Text) : (widthFrom text).1 = width text := by
  have hreserve := reserve_widthFrom text
  have hnonneg := (widthFrom text).2.reserve_nonneg
  exact (Int.toNat_of_nonneg (hnonneg.trans hreserve)).symm

/-! ### Repeated characters -/

/-- Characters that take one column and bear on nothing take as many columns as there are. -/
theorem width_replicate {c : Char} (h : widthBefore c .plain = (1, .plain)) (n : Nat) :
    width (List.replicate n c) = n := by
  have hfrom : widthFrom (List.replicate n c) = ((n : Int), .plain) := by
    induction n with
    | zero => rfl
    | succ n ih =>
      rw [List.replicate_succ, widthFrom_cons, ih, h]
      rfl
  rw [width, hfrom]
  rfl

/-! ### Spaces -/

/-- A space bears on no sequence. -/
theorem widthInSequence?_space (f : Follower) : widthInSequence? ' ' f = none := by
  cases f with
  | plain | joinedKeycap | pictureSelector | textSelector | lamed | buginese => rfl
  | _ => decide +kernel

/-- A space takes its column next to anything, and is nothing to the character before it. -/
theorem widthBefore_space (f : Follower) : widthBefore ' ' f = (1, .plain) := by
  have halone : (ownWidth ' ', asFollower ' ') = (1, .plain) := by decide +kernel
  have hkey : isKey ' ' = false := by decide
  have hstart : startsPicture ' ' = false := by decide +kernel
  have hdemand : inRanges textOnDemand ' ' = false := by decide +kernel
  have htransparent : isTransparent ' ' = false := by decide +kernel
  unfold widthBefore
  dsimp only
  split
  · simp only [widthInSequence?_space, hkey, hstart, halone, Bool.and_false, Bool.false_eq_true, if_false,
      Option.getD_none, ite_self]
  · simp only [widthInSequence?_space, hdemand, halone, Bool.false_eq_true, Option.getD_none, ite_self]
  · have hplain : ∀ n ∈ [0xFE0F, 0xFE0E, 0x200D], (' '.toNat == n) = false := by decide
    simp only [hplain, widthInSequence?_space, htransparent, halone, List.mem_cons, true_or, or_true,
      Bool.false_eq_true, if_false, ite_self]

/-- What stands behind a text bears on its columns by the follower that it begins with only. -/
theorem widthFrom_append {t : Text} (ht : (widthFrom t).2 = .plain) (s : Text) :
    widthFrom (s ++ t) = ((widthFrom s).1 + (widthFrom t).1, (widthFrom s).2) := by
  induction s with
  | nil =>
    show widthFrom t = (0 + (widthFrom t).1, .plain)
    rw [Int.zero_add, ← ht]
  | cons c s ih =>
    rw [List.cons_append, widthFrom_cons, widthFrom_cons, ih, Int.add_right_comm]

theorem widthFrom_space (t : Text) : widthFrom (' ' :: t) = ((widthFrom t).1 + 1, .plain) := by
  rw [widthFrom_cons, widthBefore_space]

/-- A text of which nothing is joined to what stands before it adds its width. -/
theorem width_append {t : Text} (ht : (widthFrom t).2 = .plain) (s : Text) :
    width (s ++ t) = width s + width t := by
  have hcolumns := congrArg Prod.fst (widthFrom_append ht s)
  rw [widthFrom_fst] at hcolumns
  dsimp only at hcolumns
  rw [widthFrom_fst, widthFrom_fst] at hcolumns
  omega

/-- In general widths do not add up: a line end of two characters takes the column of one. -/
example : width ("\r".toList ++ "\n".toList) = 1 ∧ width "\r".toList = 1 ∧ width "\n".toList = 1 := by
  decide +kernel

theorem width_spaces (n : Nat) (t : Text) : width (List.replicate n ' ' ++ t) = n + width t := by
  induction n with
  | zero => rw [List.replicate_zero, List.nil_append, Nat.zero_add]
  | succ n ih =>
    have hcolumns := congrArg Prod.fst (widthFrom_space (List.replicate n ' ' ++ t))
    rw [widthFrom_fst, widthFrom_fst, ih] at hcolumns
    rw [List.replicate_succ, List.cons_append]
    omega

/-- Spaces behind a text add their number to its width. -/
theorem width_append_spaces (s : Text) (n : Nat) : width (s ++ List.replicate n ' ') = width s + n := by
  have hplain : (widthFrom (List.replicate n ' ')).2 = .plain := by
    cases n with
    | zero => rfl
    | succ n => rw [List.replicate_succ, widthFrom_space]
  have hspaces := width_spaces n []
  rw [List.append_nil] at hspaces
  rw [width_append hplain, hspaces]
  rfl

/-- **Spaces keep apart what stands around them**: the widths of both sides and the spaces add up. -/
theorem width_append_spaces_append (s : Text) {n : Nat} (t : Text) (hn : 0 < n) :
    width (s ++ List.replicate n ' ' ++ t) = width s + n + width t := by
  have hplain : (widthFrom (List.replicate n ' ' ++ t)).2 = .plain := by
    obtain ⟨m, rfl⟩ := Nat.exists_eq_succ_of_ne_zero hn.ne'
    rw [List.replicate_succ, List.cons_append, widthFrom_space]
  rw [List.append_assoc, width_append hplain, width_spaces, Nat.add_assoc]

end Text
end TestBench
