/-
# Where escape characters come from

No part of a report makes up an escape character: the only ones are those of the texts and bytes that are
reported.

| text | its escape characters |
| --- | --- |
| numbers, elapsed times, ends of processes | none |
| a path as it is shown | those of the path, whatever the directory it is taken from |
| the cells and lines of an execution | those of the execution (`Execution.Unescaped`) |

So the pieces of all parts of a report are free of escape characters if the executions are
(`unescaped_caseTable` and the like).
-/

import Mathlib
import TestBench.Proofs.Path.Display
import TestBench.Proofs.Text.Basic
import TestBench.Proofs.Report.Pieces

namespace TestBench

/-- The character that begins a terminal sequence. -/
abbrev escape : Char := Char.ofNat 27

/-! ### Texts -/

namespace Decimal

theorem escape_notMem_write (n : Nat) : escape ∉ write n := by
  intro h
  have hdigit := List.all_eq_true.1 (all_isDigit_writeDigits (n + 1) n) escape h
  exact absurd hdigit (by decide)

theorem escape_notMem_padZeros (places : Nat) {s : Text} (h : escape ∉ s) :
    escape ∉ padZeros places s := by
  rw [padZeros, List.mem_append, List.mem_replicate]
  rintro (⟨-, hzero⟩ | hs)
  · exact absurd hzero (by decide)
  · exact h hs

end Decimal

namespace Duration

theorem escape_notMem_twoDecimals (num den : Nat) : escape ∉ twoDecimals num den := by
  rw [twoDecimals, List.mem_append, List.mem_cons]
  rintro (h | h | h)
  · exact Decimal.escape_notMem_write _ h
  · exact absurd h (by decide)
  · exact Decimal.escape_notMem_padZeros 2 (Decimal.escape_notMem_write _) h

theorem escape_notMem_elapsedText (d : Duration) : escape ∉ d.elapsedText := by
  have hsecond : escape ∉ "s".toList := by decide
  have hminute : escape ∉ "m ".toList := by decide
  rw [elapsedText]
  split
  · simp only [List.mem_append, Decimal.escape_notMem_write, hminute, escape_notMem_twoDecimals, hsecond,
      or_self, not_false_eq_true]
  · simp only [List.mem_append, escape_notMem_twoDecimals, hsecond, or_self, not_false_eq_true]

end Duration

namespace Program

theorem Exit.escape_notMem_of_signalName? {signal : Nat} {name : Text}
    (h : Exit.signalName? signal = some name) : escape ∉ name := by
  revert name
  fun_cases Exit.signalName? signal <;> decide

theorem Exit.escape_notMem_describe (exit : Exit) : escape ∉ exit.describe := by
  rw [Exit.describe]
  split
  · rw [List.mem_append]
    rintro (h | h)
    · exact absurd h (by decide)
    · exact Decimal.escape_notMem_write _ h
  · rw [Exit.signalText, List.mem_append, List.mem_append]
    rintro (h | h | h)
    · exact absurd h (by decide)
    · exact Decimal.escape_notMem_write _ h
    · split at h
      · next name hname =>
        simp only [List.mem_append] at h
        rcases h with (h | h) | h
        · exact absurd h (by decide)
        · exact Exit.escape_notMem_of_signalName? hname h
        · exact absurd h (by decide)
      · exact nomatch h
  · decide

end Program

namespace Path

theorem escape_notMem_text_of_mem_components {path : Text} (h : escape ∉ path) {part : Component}
    (hpart : part ∈ components path) : escape ∉ part.text := by
  have hinner {part : Component} (hpart : part ∈ (parts path).filterMap Component.ofPart?) :
      escape ∉ part.text := by
    obtain ⟨piece, hpiece, hof⟩ := List.mem_filterMap.1 hpart
    rw [Component.ofPart?] at hof
    split_ifs at hof
    · obtain rfl := Option.some.inj hof
      decide
    · obtain rfl := Option.some.inj hof
      exact fun hescape => h (mem_of_mem_splitAll hpiece hescape).1
  rw [components] at hpart
  split_ifs at hpart
  · rcases List.mem_cons.1 hpart with rfl | hpart
    · decide
    · exact hinner hpart
  · rcases List.mem_cons.1 hpart with rfl | hpart
    · decide
    · exact hinner hpart
  · exact hinner hpart

/-- A path is shown without escape characters if it has none, wherever it is taken from. -/
theorem escape_notMem_display {path : Text} (h : escape ∉ path) (base? : Option Text) :
    escape ∉ display path base? := by
  have hrelative {base shown : Text} (hshown : relative? path base = some shown) : escape ∉ shown := by
    rw [relative?] at hshown
    split_ifs at hshown
    · obtain ⟨way, hway, rfl⟩ := Option.map_eq_some_iff.1 hshown
      intro hescape
      rcases mem_of_mem_joinWith hescape with hmark | ⟨text, htext, hescape⟩
      · exact absurd hmark (by decide)
      · obtain ⟨part, hpart, rfl⟩ := List.mem_map.1 htext
        rcases mem_of_mem_leadFrom? hway hpart with rfl | hpart
        · exact absurd hescape (by decide)
        · exact escape_notMem_text_of_mem_components h hpart hescape
    · obtain rfl := Option.some.inj hshown
      exact h
  rw [display]
  split
  · exact h
  next shown hshown =>
    obtain ⟨base, -, hshown⟩ := Option.bind_eq_some_iff.1 hshown
    split_ifs
    · exact h
    · exact hrelative hshown

end Path

/-! ### Executions -/

/-- The texts of a case hold no escape character. -/
structure Protocol.Case.Unescaped (case : Protocol.Case) : Prop where
  name : escape ∉ case.name
  message : ∀ message ∈ case.message, escape ∉ message
  notes : ∀ note ∈ case.notes, escape ∉ note.position ∧ escape ∉ note.message

/-- The texts of an execution hold no escape character, and what it wrote to standard error no escape
byte. -/
structure Run.Execution.Unescaped (execution : Run.Execution) : Prop where
  path : escape ∉ execution.path
  sourceFile : ∀ file ∈ execution.sourceFile, escape ∉ file
  cases : ∀ case ∈ execution.cases, case.Unescaped
  stderr : 27 ∉ execution.stderr
  diagnostic : ∀ diagnostic ∈ execution.diagnostic, escape ∉ diagnostic

namespace Run.Execution.Unescaped

variable {execution : Run.Execution}

theorem outcome? (h : execution.Unescaped) : ∀ outcome ∈ execution.outcome?, escape ∉ outcome := by
  intro outcome houtcome
  rw [Run.Execution.outcome?] at houtcome
  split at houtcome
  next diagnostic hdiagnostic =>
    obtain rfl := Option.some.inj houtcome
    exact h.diagnostic diagnostic hdiagnostic
  · split at houtcome
    · simp at houtcome
    next exit _ _ =>
      obtain rfl := Option.some.inj houtcome
      exact exit.escape_notMem_describe
    · obtain rfl := Option.some.inj houtcome
      decide

theorem shownLocation (h : execution.Unescaped) (base : Option Text) :
    escape ∉ Report.shownLocation base execution := by
  refine Path.escape_notMem_display ?_ base
  rw [Run.Execution.location]
  cases hfile : execution.sourceFile with
  | none => exact h.path
  | some file => exact h.sourceFile file hfile

end Run.Execution.Unescaped

/-! ### Pieces -/

namespace Report

/-- A piece holds no escape character, or no escape byte. -/
def Piece.Unescaped : Piece → Prop
  | .text t => escape ∉ t
  | .bytes b => 27 ∉ b
  | .styled _ t => escape ∉ t
  | .padded _ t _ => escape ∉ t

/-- All pieces are free of escape characters. -/
def Unescaped (pieces : List Piece) : Prop := ∀ piece ∈ pieces, piece.Unescaped

@[simp] theorem unescaped_nil : Unescaped [] := nofun

@[simp] theorem unescaped_cons {piece : Piece} {pieces : List Piece} :
    Unescaped (piece :: pieces) ↔ piece.Unescaped ∧ Unescaped pieces := List.forall_mem_cons

@[simp] theorem unescaped_append {p q : List Piece} :
    Unescaped (p ++ q) ↔ Unescaped p ∧ Unescaped q := List.forall_mem_append

theorem unescaped_flatMap {α : Type} {items : List α} {pieces : α → List Piece}
    (h : ∀ item ∈ items, Unescaped (pieces item)) : Unescaped (items.flatMap pieces) := by
  intro piece hpiece
  obtain ⟨item, hitem, hpiece⟩ := List.mem_flatMap.1 hpiece
  exact h item hitem piece hpiece

namespace Piece

@[simp] theorem unescaped_text {t : Text} : (text t).Unescaped ↔ escape ∉ t := Iff.rfl

@[simp] theorem unescaped_bytes {b : Bytes} : (bytes b).Unescaped ↔ 27 ∉ b := Iff.rfl

@[simp] theorem unescaped_styled {style : Style} {t : Text} :
    (styled style t).Unescaped ↔ escape ∉ t := Iff.rfl

@[simp] theorem unescaped_padded {style : Option Style} {t : Text} {count : Nat} :
    (padded style t count).Unescaped ↔ escape ∉ t := Iff.rfl

@[simp] theorem unescaped_lineEnd : lineEnd.Unescaped := by
  rw [lineEnd, unescaped_text]
  decide

@[simp] theorem unescaped_spaces (count : Nat) : (spaces count).Unescaped := by
  rw [spaces, unescaped_text, List.mem_replicate]
  rintro ⟨-, hspace⟩
  exact absurd hspace (by decide)

end Piece

/-- A number behind a text, as in positions. -/
theorem escape_notMem_position {t : Text} (h : escape ∉ t) (line : Nat) :
    escape ∉ t ++ ':' :: Decimal.write line := by
  rw [List.mem_append, List.mem_cons]
  rintro (ht | hcolon | hline)
  · exact h ht
  · exact absurd hcolon (by decide)
  · exact Decimal.escape_notMem_write line hline

section

variable {executions : List Run.Execution}

theorem unescaped_caseTable (base : Option Text) (h : ∀ execution ∈ executions, execution.Unescaped) :
    Unescaped (caseTable base executions) := by
  refine unescaped_flatMap fun row hrow => ?_
  have hrow := (List.mergeSort_perm _ _).mem_iff.1 hrow
  obtain ⟨execution, hexecution, hrow⟩ := List.mem_flatMap.1 hrow
  obtain ⟨case, hcase, rfl⟩ := List.mem_map.1 hrow
  have hexecution := h execution hexecution
  have hcase := hexecution.cases case hcase
  have hstatus : escape ∉ case.status.text := by cases case.status <;> decide
  have hgap : gap.Unescaped := by
    rw [gap, Piece.unescaped_text]
    decide
  have hposition : escape ∉ Row.position { location := shownLocation base execution, case } :=
    escape_notMem_position (hexecution.shownLocation base) case.line
  rw [Row.pieces, unescaped_append]
  constructor
  · simpa [cell, hstatus, hgap] using hposition
  · cases hmessage : case.message with
    | none => simpa using hcase.name
    | some message => simpa [cell, hgap] using ⟨hcase.name, hcase.message message hmessage⟩

theorem unescaped_headed {header : Text} {entries : List (List Piece)} (hheader : escape ∉ header)
    (h : ∀ entry ∈ entries, Unescaped entry) : Unescaped (headed header entries) := by
  rw [headed]
  split_ifs
  · exact unescaped_nil
  · have hentries : Unescaped entries.flatten := by
      intro piece hpiece
      obtain ⟨entry, hentry, hpiece⟩ := List.mem_flatten.1 hpiece
      exact h entry hentry piece hpiece
    simpa [hheader] using hentries

theorem unescaped_drillDownCase {case : Protocol.Case} (h : case.Unescaped) :
    Unescaped (drillDownCase case) := by
  have hnotes : Unescaped (case.notes.flatMap notePieces) := by
    refine unescaped_flatMap fun note hnote => ?_
    simpa +decide [notePieces, indent] using h.notes note hnote
  have hname := escape_notMem_position h.name case.line
  simpa [drillDownCase, caseTitle, indent, hnotes] using hname

theorem unescaped_terminatedSection (base : Option Text)
    (h : ∀ execution ∈ executions, execution.Unescaped) :
    Unescaped (terminatedSection base executions) := by
  refine unescaped_headed (by decide) fun entry hentry => ?_
  obtain ⟨execution, hexecution, rfl⟩ := List.mem_map.1 hentry
  have hexecution := h execution (List.mem_of_mem_filter hexecution)
  have houtcome : Unescaped (outcomePieces execution) := by
    rw [outcomePieces]
    split
    next outcome hsome =>
      simpa +decide using hexecution.outcome? outcome hsome
    · exact unescaped_nil
  have hcases : Unescaped (execution.cases.flatMap drillDownCase) :=
    unescaped_flatMap fun case hcase => unescaped_drillDownCase (hexecution.cases case hcase)
  simpa [drillDown, houtcome, hcases] using hexecution.shownLocation base

theorem unescaped_sanitizerSection (base : Option Text)
    (h : ∀ execution ∈ executions, execution.Unescaped) :
    Unescaped (sanitizerSection base executions) := by
  refine unescaped_headed (by decide) fun entry hentry => ?_
  obtain ⟨execution, hexecution, rfl⟩ := List.mem_map.1 hentry
  have hexecution := h execution (List.mem_of_mem_filter hexecution)
  have hend : Unescaped (missingLineEnd execution.stderr) := by
    rw [missingLineEnd]
    split_ifs
    · exact unescaped_nil
    · simp
  simpa [dump, hend] using ⟨hexecution.shownLocation base, hexecution.stderr⟩

end

theorem unescaped_counted (count : Nat) {noun : Piece} (h : noun.Unescaped) :
    Unescaped (counted count noun) := by
  simpa +decide [counted, Decimal.escape_notMem_write] using h

/-- A noun in the singular or the plural, and what follows it. -/
theorem escape_notMem_choose {one many behind : Text} (hone : escape ∉ one) (hmany : escape ∉ many)
    (hbehind : escape ∉ behind) (count : Nat) : escape ∉ Plural.choose one many count ++ behind := by
  rw [Plural.choose, List.mem_append]
  split_ifs
  · exact not_or.2 ⟨hone, hbehind⟩
  · exact not_or.2 ⟨hmany, hbehind⟩

theorem unescaped_elapsedPieces (elapsed : Option Duration) : Unescaped (elapsedPieces elapsed) := by
  cases elapsed with
  | none => exact unescaped_nil
  | some elapsed =>
    have hopen : escape ∉ " [".toList := by decide
    have hclose : escape ∉ "]".toList := by decide
    rw [elapsedPieces, unescaped_cons, Piece.unescaped_text, List.mem_append, List.mem_append]
    exact ⟨not_or.2 ⟨not_or.2 ⟨hopen, elapsed.escape_notMem_elapsedText⟩, hclose⟩, unescaped_nil⟩

/-- A count of test binaries, and what follows the noun. -/
theorem unescaped_counted_binaries {behind : Text} (h : escape ∉ behind) (count : Nat) :
    Unescaped (counted count (.text (Plural.binaries count ++ behind))) :=
  unescaped_counted count
    (Piece.unescaped_text.2 (escape_notMem_choose (by decide) (by decide) h count))

theorem unescaped_terminatedPieces (stats : Stats) : Unescaped (terminatedPieces stats) := by
  have hcomma : escape ∉ ", ".toList := by decide
  have hword : escape ∉ "terminated".toList := by decide
  have hspace : escape ∉ " ".toList := by decide
  rw [terminatedPieces]
  split_ifs
  · exact unescaped_nil
  · rw [unescaped_append, unescaped_cons, unescaped_cons]
    exact ⟨⟨hcomma, unescaped_counted_binaries hspace _⟩, hword, unescaped_nil⟩

theorem unescaped_unknownPieces (stats : Stats) : Unescaped (unknownPieces stats) := by
  have hcomma : escape ∉ ", ".toList := by decide
  have hwords : escape ∉ " with unknown status".toList := by decide
  rw [unknownPieces]
  split_ifs
  · exact unescaped_nil
  · rw [unescaped_cons]
    exact ⟨hcomma, unescaped_counted_binaries hwords _⟩

theorem unescaped_countPieces (stats : Stats) : Unescaped (countPieces stats) := by
  have hspace : escape ∉ " ".toList := by decide
  have hcomma : escape ∉ ", ".toList := by decide
  have hpassed : escape ∉ "passed".toList := by decide
  have hfailed : escape ∉ "failed".toList := by decide
  have hignored : escape ∉ "ignored".toList := by decide
  have hrun : escape ∉ " run, ".toList := by decide
  have hcases : escape ∉ Plural.cases stats.cases ++ ": ".toList :=
    escape_notMem_choose (by decide) (by decide) (by decide) _
  have hcounted (style : Style) {word : Text} (h : escape ∉ word) (count : Nat) :
      Unescaped (counted count (.styled style word)) :=
    unescaped_counted count (Piece.unescaped_styled.2 h)
  rw [countPieces]
  simp only [unescaped_append, unescaped_cons, Piece.unescaped_text, unescaped_counted_binaries hrun,
    hcounted .pass hpassed, hcounted .fail hfailed, hcounted .ignore hignored,
    unescaped_counted _ (Piece.unescaped_text.2 hcases), hspace, hcomma, not_false_eq_true, and_self]

theorem unescaped_summary (stats : Stats) (elapsed : Option Duration) :
    Unescaped (summary stats elapsed) := by
  have hheading : escape ∉ "Summary".toList := by decide
  rw [summary]
  simp only [unescaped_append, unescaped_cons, unescaped_nil, Piece.unescaped_lineEnd, Piece.unescaped_styled,
    unescaped_elapsedPieces, unescaped_countPieces, unescaped_terminatedPieces, unescaped_unknownPieces, hheading,
    not_false_eq_true, and_self]

theorem unescaped_banner {variant : Text} (h : escape ∉ variant) : Unescaped (banner variant) := by
  simpa +decide [banner] using h

end Report
end TestBench
