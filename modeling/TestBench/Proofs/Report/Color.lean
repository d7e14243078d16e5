/-
# Colour changes nothing but colour

A coloured report is the plain one with terminal sequences in it: from an escape byte and `[` to the next
`m`.  Reading over the sequences gives the plain report back, byte by byte, so that cells, padding and
columns are the same (`uncolors_parts`).

| bytes | what is left of them (`withoutSequences`) |
| --- | --- |
| `ESC [ … m` | nothing |
| without escape bytes | all |

This holds of each part of a report by itself, if what is reported brings no escape bytes along.
-/

import Mathlib
import TestBench.Proofs.Report.Escape
import TestBench.Proofs.Text.Utf8

namespace TestBench

/-- The byte that begins a terminal sequence. -/
def escapeByte : UInt8 := 27

namespace Utf8

/-- A text without escape characters has no escape bytes. -/
theorem escapeByte_notMem_encode {t : Text} (h : escape ∉ t) : escapeByte ∉ encode t := fun hbyte =>
  h (mem_of_mem_encode (by decide) hbyte)

end Utf8

namespace Report

/-- What follows the terminal sequence that bytes begin with, if they begin with one: the escape byte, `[`,
and all up to the next `m`. -/
def behindSequence? (s : Bytes) : Option Bytes :=
  (dropHead? [escapeByte, 91] s).bind fun s => (splitAtFirst? (· = 109) s).map Prod.snd

/-- What follows comes behind the first element that is looked for. -/
theorem length_of_splitAtFirst? {α : Type} {p : α → Bool} {s before after : List α}
    (h : splitAtFirst? p s = some (before, after)) : after.length < s.length := by
  induction s generalizing before with
  | nil => simp [splitAtFirst?] at h
  | cons a s ih =>
    rw [splitAtFirst?] at h
    split_ifs at h
    · obtain ⟨-, rfl⟩ := Prod.mk.inj (Option.some.inj h)
      simp
    · obtain ⟨⟨front, back⟩, hsplit, heq⟩ := Option.map_eq_some_iff.1 h
      obtain ⟨-, rfl⟩ := Prod.mk.inj heq
      exact Nat.lt_succ_of_lt (ih hsplit)

theorem length_of_behindSequence? {s rest : Bytes} (h : behindSequence? s = some rest) :
    rest.length < s.length := by
  obtain ⟨inner, hhead, hrest⟩ := Option.bind_eq_some_iff.1 h
  obtain ⟨⟨before, after⟩, hsplit, rfl⟩ := Option.map_eq_some_iff.1 hrest
  rw [eq_append_of_dropHead? hhead, List.length_append]
  exact Nat.lt_add_left _ (length_of_splitAtFirst? hsplit)

/-- Bytes without the terminal sequences in them. -/
def withoutSequences (s : Bytes) : Bytes :=
  match _ : behindSequence? s with
  | some rest => withoutSequences rest
  | none =>
    match s with
    | [] => []
    | b :: s => b :: withoutSequences s
termination_by s.length
decreasing_by
  · exact length_of_behindSequence? (by assumption)
  · simp

theorem withoutSequences_of_behindSequence? {s rest : Bytes} (h : behindSequence? s = some rest) :
    withoutSequences s = withoutSequences rest := by
  rw [withoutSequences]
  split
  next other hother => rw [Option.some.inj (hother.symm.trans h)]
  next hnone => exact absurd (hnone.symm.trans h) (by simp)

theorem withoutSequences_nil : withoutSequences [] = [] := by
  rw [withoutSequences]
  rfl

theorem withoutSequences_cons {b : UInt8} (hb : b ≠ escapeByte) (s : Bytes) :
    withoutSequences (b :: s) = b :: withoutSequences s := by
  have hnone : behindSequence? (b :: s) = none := by
    have hhead : (escapeByte == b) = false := beq_false_of_ne (Ne.symm hb)
    simp [behindSequence?, dropHead?, hhead]
  rw [withoutSequences]
  split
  next hsome => exact absurd (hsome.symm.trans hnone) (by simp)
  · rfl

/-- Bytes without escape bytes stay. -/
theorem withoutSequences_append {s : Bytes} (h : escapeByte ∉ s) (rest : Bytes) :
    withoutSequences (s ++ rest) = s ++ withoutSequences rest := by
  induction s with
  | nil => rfl
  | cons b s ih =>
    rw [List.mem_cons, not_or] at h
    obtain ⟨hb, hs⟩ := h
    rw [List.cons_append, withoutSequences_cons (Ne.symm hb), ih hs, List.cons_append]

/-- The sequence of a rendition whose parameters hold no `m`. -/
theorem withoutSequences_rendition {parameters : Text} (h : 109 ∉ Utf8.encode parameters)
    (rest : Bytes) :
    withoutSequences (Utf8.encode (rendition parameters) ++ rest) = withoutSequences rest := by
  have hbytes : Utf8.encode (rendition parameters) ++ rest
      = [escapeByte, 91] ++ (Utf8.encode parameters ++ 109 :: rest) := by
    rw [rendition, Utf8.encode_append, List.append_assoc]
    rfl
  refine withoutSequences_of_behindSequence? ?_
  rw [hbytes, behindSequence?, dropHead?_append, Option.bind_some, splitAtFirst?_append _ (by decide)]
  · rfl
  · intro b hb
    rw [decide_eq_false_iff_not]
    rintro rfl
    exact h hb

theorem notMem_encode_parameters (style : Style) : 109 ∉ Utf8.encode style.parameters := by
  cases style <;> decide

/-- A text in a style becomes the plain one. -/
theorem withoutSequences_paint_append (color : Bool) (style : Style) {t : Text} (h : escape ∉ t) (rest : Bytes) :
    withoutSequences (Utf8.encode (style.paint color t) ++ rest) = Utf8.encode t ++ withoutSequences rest := by
  have hplain (rest : Bytes) := withoutSequences_append (Utf8.escapeByte_notMem_encode h) rest
  cases color with
  | false => exact hplain rest
  | true =>
    have hend : 109 ∉ Utf8.encode "0".toList := by decide
    rw [Style.paint, if_pos rfl, inRendition, Utf8.encode_append, Utf8.encode_append, List.append_assoc,
      List.append_assoc, withoutSequences_rendition (notMem_encode_parameters style), hplain,
      withoutSequences_rendition hend]

/-- A coloured piece becomes the plain one. -/
theorem withoutSequences_render_append {piece : Piece} (h : piece.Unescaped) (rest : Bytes) :
    withoutSequences (piece.render true ++ rest) = piece.render false ++ withoutSequences rest := by
  cases piece with
  | text t => exact withoutSequences_append (Utf8.escapeByte_notMem_encode h) rest
  | bytes b => exact withoutSequences_append h rest
  | styled style t => exact withoutSequences_paint_append true style h rest
  | padded style t count =>
    have hspaces : escape ∉ List.replicate count ' ' := by
      rw [List.mem_replicate]
      rintro ⟨-, hspace⟩
      exact absurd hspace (by decide)
    have hbehind := withoutSequences_append (Utf8.escapeByte_notMem_encode hspaces) rest
    cases style with
    | none =>
      have ht : escape ∉ t ++ List.replicate count ' ' := List.mem_append.not.2 (not_or.2 ⟨h, hspaces⟩)
      exact withoutSequences_append (Utf8.escapeByte_notMem_encode ht) rest
    | some style =>
      have hplain : (Piece.padded (some style) t count).render false
          = Utf8.encode t ++ Utf8.encode (List.replicate count ' ') := Utf8.encode_append _ _
      rw [hplain, Piece.render, Utf8.encode_append, List.append_assoc, withoutSequences_paint_append true style h,
        hbehind, List.append_assoc]

/-- **A coloured report becomes the plain one**, piece by piece. -/
theorem withoutSequences_render {pieces : List Piece} (h : Unescaped pieces) :
    withoutSequences (render true pieces) = render false pieces := by
  induction pieces with
  | nil => exact withoutSequences_nil
  | cons piece pieces ih =>
    obtain ⟨hpiece, hpieces⟩ := unescaped_cons.1 h
    rw [render, List.flatMap_cons, withoutSequences_render_append hpiece, ← render, ih hpieces]
    rfl

/-- So it does as far as it can be written. -/
theorem withoutSequences_written {pieces : List Piece} (h : Unescaped pieces) :
    withoutSequences (written true pieces) = written false pieces :=
  withoutSequences_render fun _ hpiece => h _ ((List.takeWhile_sublist _).mem hpiece)

/-- What is written in colour is, but for the terminal sequences, what is written without, and comes to the same. -/
def Uncolors {α : Type} (writing : Reporter → Writing α) (base : Option Text) : Prop :=
  withoutSequences (writing { color := true, base } .unbounded).1.taken
      = (writing { color := false, base } .unbounded).1.taken ∧
    (writing { color := true, base } .unbounded).2 = (writing { color := false, base } .unbounded).2

theorem uncolors_of_unescaped {α : Type} {writing : Reporter → Writing α} {base : Option Text} {pieces : List Piece}
    {value : α} (h : Unescaped pieces)
    (hplays : ∀ color, PlaysPromptly (writing { color, base }) color pieces value) : Uncolors writing base := by
  obtain ⟨htaken, hresult⟩ := (hplays true).unbounded
  obtain ⟨htaken', hresult'⟩ := (hplays false).unbounded
  rw [Uncolors, htaken, hresult, htaken', hresult']
  exact ⟨withoutSequences_written h, rfl⟩

/-- **Colour changes nothing but colour**: reading over the terminal sequences of a coloured report gives
the plain one, of the whole report on a run and of each of its parts, and of the banner of a variant; and both come
to the same.  The executions and the variant bring no escape bytes along. -/
theorem uncolors_parts (base : Option Text) {executions : List Run.Execution} {variant : Text}
    (hexecutions : ∀ execution ∈ executions, execution.Unescaped) (hvariant : escape ∉ variant)
    (stats : Stats) (elapsed : Duration) (elapsed? : Option Duration) :
    Uncolors (Reporter.writeCaseTable · executions) base ∧
      Uncolors (Reporter.writeTerminated · executions) base ∧
      Uncolors (Reporter.writeSanitizerOutput · executions) base ∧
      Uncolors (Reporter.writeSummary · stats elapsed?) base ∧
      Uncolors (Reporter.writeBanner · variant) base ∧
      Uncolors (Reporter.writeReport · executions elapsed) base := by
  have htable := unescaped_caseTable base hexecutions
  have hterminated := unescaped_terminatedSection base hexecutions
  have hsanitizer := unescaped_sanitizerSection base hexecutions
  have hreport : Unescaped (report base executions elapsed) := by
    rw [report, unescaped_append, unescaped_append, unescaped_append]
    exact ⟨htable, hterminated, hsanitizer, unescaped_summary _ _⟩
  exact ⟨uncolors_of_unescaped htable fun _ => (plays_writeCaseTable _ _).promptly,
    uncolors_of_unescaped hterminated fun _ => (plays_writeTerminated _ _).promptly,
    uncolors_of_unescaped hsanitizer fun _ => (plays_writeSanitizerOutput _ _).promptly,
    uncolors_of_unescaped (unescaped_summary stats elapsed?) fun _ => (plays_writeSummary _ _ _).promptly,
    uncolors_of_unescaped (unescaped_banner hvariant) fun _ => (plays_writeBanner _ _).promptly,
    uncolors_of_unescaped hreport fun _ => (concludes_writeReport _ _ _).promptly⟩

/-- An execution with a wide cell, a message, a note and output without a line end. -/
def motley : Run.Execution :=
  { path := "build/a".toList, sourceFile := some "ä.c".toList, status := .terminated
    exit := some (.ofCode 3)
    cases := [{ line := 7, name := "漢".toList, status := .fail, message := some "no".toList
                notes := [{ position := "ä.c:6".toList, message := "so".toList }] }]
    stderr := [0xFF, 91, 109], diagnostic := none }

/-- The bytes of the table row of such an execution, in colour and read over. -/
theorem uncolors_parts_motley :
    (∀ execution ∈ [motley], execution.Unescaped) ∧
      (Reporter.writeCaseTable { color := true, base := none } [motley] .unbounded).1.taken
        ≠ (Reporter.writeCaseTable { color := false, base := none } [motley] .unbounded).1.taken ∧
      withoutSequences (Reporter.writeCaseTable { color := true, base := none } [motley] .unbounded).1.taken
        = (Reporter.writeCaseTable { color := false, base := none } [motley] .unbounded).1.taken := by
  have hunescaped : ∀ execution ∈ [motley], execution.Unescaped := by
    intro execution hexecution
    obtain rfl := List.mem_singleton.1 hexecution
    refine ⟨by decide, by decide, fun case hcase => ?_, by decide, by decide⟩
    obtain rfl := List.mem_singleton.1 hcase
    exact ⟨by decide, by decide, by decide⟩
  have hvariant : escape ∉ "asan".toList := by decide
  refine ⟨hunescaped, ?_, (uncolors_parts none hunescaped hvariant .zero ⟨0, 0⟩ none).1.1⟩
  decide +kernel

end Report
end TestBench
