/-
# The position that a row shows

A row shows a location and a line number, and they come from different places.

| part of the position | where it comes from |
| --- | --- |
| location | the first line of the binary's output that follows the protocol, whatever it does |
| line number | the line that closed the case (`closings`) |

So a position is that of the closing line where all lines of a binary name one source file, which is what
is expected of a binary.  Where they do not, it is not: `RowsShow` says of a table from which of the two
lines its locations come, and of `mixed` it fails for the closing line (`not_rowsShow_ownLine_mixed`).
-/

import TestBench.Proofs.Report.CaseTable
import TestBench.Proofs.Run.Verdict
import TestBench.Proofs.Text.Utf8
import Mathlib

namespace TestBench

namespace Protocol

/-- The lines of an output that close a case. -/
def closings (output : Text) : List Line := (record output).filter Line.isClosing

/-- The cases of lines are closed by their closing lines, in this order. -/
theorem exists_closing_of_gather {pending : List Note} {lines : List Line} {place : Nat} {case : Case}
    (h : (gather pending lines).1[place]? = some case) :
    ∃ line status notes, (lines.filter Line.isClosing)[place]? = some line ∧
      line.kind = .closing status ∧ case = line.toCase status notes := by
  induction lines generalizing pending place with
  | nil => simp [gather] at h
  | cons line lines ih =>
    cases hkind : line.kind with
    | info =>
      rw [gather_info hkind] at h
      have hline : ¬line.isClosing = true := by simp [Line.isClosing, Line.isInfo_of_kind hkind]
      rw [List.filter_cons_of_neg hline]
      exact ih h
    | closing status =>
      rw [gather_closing hkind] at h
      have hline : line.isClosing = true := by simp [Line.isClosing, Line.not_isInfo_of_kind hkind]
      rw [List.filter_cons_of_pos hline]
      cases place with
      | zero => exact ⟨line, status, pending, rfl, hkind, (Option.some.inj h).symm⟩
      | succ place => exact ih h

/-- **The case at a place** was closed by the closing line at this place. -/
theorem exists_closing {output : Text} {place : Nat} {case : Case}
    (h : (cases output)[place]? = some case) :
    ∃ line status notes, (closings output)[place]? = some line ∧ line.kind = .closing status ∧
      case = line.toCase status notes := by
  rw [cases_eq] at h
  exact exists_closing_of_gather h

end Protocol

namespace Report

open Protocol (Line closings record)

/-- The position of a line as it is shown if the location is taken from the line `source`. -/
def shownPosition (base : Option Text) (source line : Line) : Text :=
  Path.display source.location base ++ ':' :: Decimal.write line.number

/-- The position is that of the line itself iff both locations are shown alike. -/
theorem shownPosition_eq_iff {base : Option Text} {source line : Line} :
    shownPosition base source line = shownPosition base line line
      ↔ Path.display source.location base = Path.display line.location base :=
  List.append_left_inj _

namespace Entry

/-- The case was closed by the line `own` of a binary with this output, whose first line is `first`. -/
structure IsClosedBy (output : Text) (entry : Entry) (first own : Line) : Prop where
  first_eq : (record output).head? = some first
  own_eq : (closings output)[entry.place]? = some own
  case_eq : ∃ status notes, own.kind = .closing status ∧ entry.case = own.toCase status notes

/-- A case of the only execution of a run. -/
theorem isOf_singleton {execution : Run.Execution} {place : Nat} {case : Protocol.Case}
    (h : execution.cases[place]? = some case) :
    IsOf [execution] { test := 0, execution, place, case } :=
  ⟨rfl, h⟩

/-- **The location is that of the first line,** and the line number that of the closing line. -/
theorem exists_isClosedBy {entry : Entry} {outcome : Run.Outcome} {path output : Text}
    (hexecution : entry.execution = (outcome.judge path).1) (houtput : Utf8.encode output = outcome.stdout)
    (hcase : entry.execution.cases[entry.place]? = some entry.case) (base : Option Text) :
    ∃ first own, entry.IsClosedBy output first own ∧ entry.position base = shownPosition base first own := by
  rw [hexecution, Run.Outcome.judge_of_text houtput] at hcase
  obtain ⟨own, status, notes, hown, hkind, heq⟩ := Protocol.exists_closing hcase
  have hmem : own ∈ record output := List.mem_of_mem_filter (List.mem_of_getElem? hown)
  obtain ⟨first, hfirst⟩ : ∃ first, (record output).head? = some first := by
    cases hrecord : record output with
    | nil => simp [hrecord] at hmem
    | cons first rest => exact ⟨first, rfl⟩
  have hlocation : (outcome.judge path).1.location = first.location := by
    rw [Run.Outcome.judge_of_text houtput, Run.Execution.location, Protocol.firstLocation?_eq, hfirst]
    rfl
  refine ⟨first, own, ⟨hfirst, hown, status, notes, hkind, heq⟩, ?_⟩
  rw [shownPosition, Entry.position, hexecution, hlocation, heq]
  rfl

end Entry

/-- The table has one line for each case of the run; and every case of a binary whose output is text has a
row that shows the number of the line that closed it, and the location of the line that `source` makes of
the binary's first line and that one. -/
def RowsShow (source : (first own : Line) → Line) (reporter : Reporter) (executions : List Run.Execution) : Prop :=
  ∃ order : List Entry,
    (order.map fun entry => (entry.test, entry.place)).Nodup ∧
    (∀ entry, entry ∈ order ↔ entry.IsOf executions) ∧
    ∃ lines, Prints reporter executions lines ∧
      List.Forall₂ (fun entry line => ∀ (outcome : Run.Outcome) (path output : Text),
        entry.execution = (outcome.judge path).1 → Utf8.encode output = outcome.stdout →
          ∃ first own, entry.IsClosedBy output first own ∧
            entry.ShowsAt reporter.color (shownPosition reporter.base (source first own) own) line) order lines

/-- The position that the row of a case shows is written. -/
theorem RowsShow.exists_written {source : (first own : Line) → Line} {reporter : Reporter}
    {execution : Run.Execution} (h : RowsShow source reporter [execution])
    (hpaddable : IsPaddable reporter.base [execution]) {outcome : Run.Outcome} {path output : Text}
    (hexecution : execution = (outcome.judge path).1) (houtput : Utf8.encode output = outcome.stdout) {place : Nat}
    {case : Protocol.Case} (hcase : execution.cases[place]? = some case) :
    ∃ first own, (record output).head? = some first ∧ (closings output)[place]? = some own ∧
      Utf8.encode (shownPosition reporter.base (source first own) own)
        ⊆ (reporter.writeCaseTable [execution] .unbounded).1.taken := by
  obtain ⟨order, -, hmem, lines, hprints, hrows⟩ := h
  obtain ⟨i, hi, hentry⟩ := List.mem_iff_getElem.1 ((hmem _).2 (Entry.isOf_singleton hcase))
  have hi' : i < lines.length := hrows.length_eq ▸ hi
  have hrow := hrows.get hi hi'
  rw [List.get_eq_getElem, List.get_eq_getElem, hentry] at hrow
  obtain ⟨first, own, hclosed, m, n, k, hline⟩ := hrow outcome path output hexecution houtput
  refine ⟨first, own, hclosed.first_eq, hclosed.own_eq, fun b hb => ?_⟩
  rw [hprints.2 hpaddable, Sink.taken_push_unbounded]
  refine List.mem_flatten.2 ⟨lines[i], List.getElem_mem hi', ?_⟩
  rw [hline]
  simp only [Entry.rowAt, Utf8.encode_append, List.mem_append]
  exact .inr (.inl (.inl (.inl (.inl (.inl (.inr hb))))))

/-- **A row shows the location of the binary's first line and the number of its own.**  That is the
position of the line that closed the case iff the two locations are shown alike. -/
theorem rowsShow_firstLine (reporter : Reporter) (executions : List Run.Execution) :
    RowsShow (fun first _ => first) reporter executions ∧
    ∀ first own : Line, shownPosition reporter.base first own = shownPosition reporter.base own own
      ↔ Path.display first.location reporter.base = Path.display own.location reporter.base := by
  have htable := tabulates reporter.color reporter.base executions
  refine ⟨⟨ordered reporter.base executions, htable.nodup, htable.mem_iff, _,
    prints_tableLines reporter executions, ?_⟩,
    fun first own => shownPosition_eq_iff⟩
  rw [tableLines, List.forall₂_map_right_iff, List.forall₂_same]
  intro entry hentry outcome path output hexecution houtput
  have hof : entry.IsOf executions := (htable.mem_iff entry).1 hentry
  obtain ⟨first, own, hclosed, hposition⟩ := Entry.exists_isClosedBy hexecution houtput hof.2 reporter.base
  refine ⟨first, own, hclosed, ?_⟩
  rw [← hposition]
  exact ⟨_, _, _, rfl⟩

/-- An output that closes a case in each of two source files. -/
def mixedOutput : Text := "a.c:1:PASS:x\nb.c:2:FAIL:y\n".toList

/-- A binary with this output. -/
def mixed : Run.Outcome :=
  { wait := .ok (.ofCode 0), stdout := Utf8.encode mixedOutput, stderr := [], expired := none }

/-- The line that closes its second case. -/
def mixedLine : Line :=
  { location := "b.c".toList, number := 2, name := "y".toList, kind := .closing .fail, message := none }

theorem closings_mixed : (closings mixedOutput)[1]? = some mixedLine := by
  decide +kernel

/-- A plain report, with all paths as they are. -/
def plain : Reporter := { color := false, base := none }

theorem isPaddable_mixed : IsPaddable plain.base [(mixed.judge "m".toList).1] := by
  decide +kernel

theorem isSome_case_mixed : ((mixed.judge "m".toList).1.cases[1]?).isSome = true := by
  cbv

/-- The case that `b.c:2` closes has a row with the location of the first line. -/
theorem rowsShow_firstLine_mixed : ∃ first : Line, (record mixedOutput).head? = some first ∧
    first.location = "a.c".toList ∧ mixedLine.location = "b.c".toList ∧
    Utf8.encode (shownPosition none first mixedLine)
      ⊆ (plain.writeCaseTable [(mixed.judge "m".toList).1] .unbounded).1.taken := by
  obtain ⟨case, hcase⟩ := Option.isSome_iff_exists.1 isSome_case_mixed
  obtain ⟨first, own, hfirst, hown, hwritten⟩ :=
    (rowsShow_firstLine plain [(mixed.judge "m".toList).1]).1.exists_written isPaddable_mixed rfl rfl hcase
  have hlocation : (record mixedOutput).head?.map Line.location = some "a.c".toList := by
    decide +kernel
  obtain rfl := Option.some.inj (hown.symm.trans closings_mixed)
  refine ⟨first, hfirst, ?_, rfl, hwritten⟩
  rw [show (record mixedOutput).head? = some first from hfirst] at hlocation
  exact Option.some.inj hlocation

/-- What is written for that binary. -/
theorem taken_caseTable_mixed :
    (plain.writeCaseTable [(mixed.judge "m".toList).1] .unbounded).1.taken
      = Utf8.encode "PASS  a.c:1  x\nFAIL  a.c:2  y\n".toList := by
  cbv

/-- **The location of a row is not that of its own line:** the case that `b.c:2` closes is shown at
`a.c:2`, and no `b` is written. -/
theorem not_rowsShow_ownLine_mixed :
    ¬RowsShow (fun _ own => own) plain [(mixed.judge "m".toList).1] := by
  intro h
  obtain ⟨case, hcase⟩ := Option.isSome_iff_exists.1 isSome_case_mixed
  obtain ⟨first, own, -, hown, hwritten⟩ := h.exists_written isPaddable_mixed rfl rfl hcase
  obtain rfl := Option.some.inj (hown.symm.trans closings_mixed)
  have hposition : (98 : UInt8) ∈ Utf8.encode (shownPosition none mixedLine mixedLine) := by
    decide +kernel
  have hmem := hwritten hposition
  rw [taken_caseTable_mixed] at hmem
  revert hmem
  decide +kernel

end Report
end TestBench
