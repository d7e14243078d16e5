/-
# The pieces of a report

What each pass over the executions writes, as a list of pieces.

| list | the pass that plays it |
| --- | --- |
| `caseTable` | `plays_writeCaseTable` |
| `terminatedSection` | `plays_writeTerminated` |
| `sanitizerSection` | `plays_writeSanitizerOutput` |
| `summary` | `plays_writeSummary` |
| `banner` | `plays_writeBanner` |
| `report` | `concludes_writeReport` |
-/

import TestBench.Proofs.Report.Writing
import TestBench.Report.Whole

namespace TestBench
namespace Report

/-! ### The lists -/

/-- The pieces of a row. -/
def Row.pieces (columns : Columns) (row : Row) : List Piece :=
  [cell (some (Style.ofStatus row.case.status)) row.case.status.text columns.status, gap,
    cell none row.position columns.position, gap]
  ++ match row.case.message with
    | some message => [cell none row.case.name columns.name, gap, .text message, .lineEnd]
    | none => [.text row.case.name, .lineEnd]

/-- The pieces of the case table. -/
def caseTable (base : Option Text) (executions : List Run.Execution) : List Piece :=
  let rows := Row.sorted base executions
  rows.flatMap (Row.pieces (Columns.ofRows rows))

/-- A blank line, a header, and the entries; nothing if there are no entries. -/
def headed (header : Text) (entries : List (List Piece)) : List Piece :=
  if entries = [] then []
  else [.lineEnd, .styled .strong header, .lineEnd] ++ entries.flatten

/-- The pieces of a note. -/
def notePieces (note : Protocol.Note) : List Piece :=
  [indent, indent, .text note.position, .text ": ".toList, .text note.message, .lineEnd]

/-- The pieces of a case in a drill-down. -/
def drillDownCase (case : Protocol.Case) : List Piece :=
  [indent, .styled (Style.ofStatus case.status) (caseTitle case), .lineEnd]
  ++ case.notes.flatMap notePieces

/-- The pieces of an execution that did not end well. -/
def drillDown (base : Option Text) (execution : Run.Execution) : List Piece :=
  [.styled .strong (shownLocation base execution)]
    ++ (outcomePieces execution ++ [.lineEnd] ++ execution.cases.flatMap drillDownCase)

/-- The pieces of the section of the executions that did not end well. -/
def terminatedSection (base : Option Text) (executions : List Run.Execution) : List Piece :=
  headed "Terminated tests:".toList ((executions.filter isDrilledDown).map (drillDown base))

/-- The pieces of what an execution wrote to standard error. -/
def dump (base : Option Text) (execution : Run.Execution) : List Piece :=
  [.styled .strong (shownLocation base execution), .lineEnd, .bytes execution.stderr]
    ++ missingLineEnd execution.stderr

/-- The pieces of the section of what was written to standard error. -/
def sanitizerSection (base : Option Text) (executions : List Run.Execution) : List Piece :=
  headed "Sanitizer output:".toList ((executions.filter hasSanitizerOutput).map (dump base))

/-- The pieces of the summary of a run. -/
def summary (stats : Stats) (elapsed : Option Duration) : List Piece :=
  [.lineEnd, .styled .strong "Summary".toList] ++ (elapsedPieces elapsed ++ (countPieces stats
    ++ (terminatedPieces stats ++ (unknownPieces stats ++ [.lineEnd]))))

/-- The pieces of the line that introduces a variant. -/
def banner (variant : Text) : List Piece :=
  [.styled .banner ("Running sanitizers for ".toList ++ variant), .lineEnd]

/-- The pieces of the whole report on a run. -/
def report (base : Option Text) (executions : List Run.Execution) (elapsed : Duration) : List Piece :=
  caseTable base executions ++ (terminatedSection base executions
    ++ (sanitizerSection base executions ++ summary (Stats.ofExecutions executions) (some elapsed)))

/-! ### The passes play them -/

section

variable (reporter : Reporter)

theorem plays_writeRow (columns : Columns) (row : Row) :
    Plays (reporter.writeRow columns row) reporter.color (row.pieces columns) () := by
  unfold Reporter.writeRow Row.pieces
  refine (plays_write reporter [_]).bind ((plays_write reporter [_]).bind ((plays_write reporter [_]).bind
    ((plays_write reporter [_]).bind ?_)))
  cases row.case.message with
  | some message => exact (plays_write reporter [_]).bind (plays_write reporter [_, _, _])
  | none => exact plays_write reporter [_, _]

theorem plays_writeCaseTable (executions : List Run.Execution) :
    Plays (reporter.writeCaseTable executions) reporter.color (caseTable reporter.base executions) () :=
  plays_forM fun row _ => plays_writeRow reporter _ row

/-- A section plays its header and its entries, if there are any. -/
theorem plays_writeSection {writeEntry : Run.Execution → Writing Unit} {entry : Run.Execution → List Piece}
    (h : ∀ execution, Plays (writeEntry execution) reporter.color (entry execution) ()) (header : Text)
    (executions : List Run.Execution) :
    Plays (reporter.writeSection header writeEntry executions) reporter.color
      (headed header (executions.map entry)) () := by
  rw [Reporter.writeSection, headed]
  cases executions with
  | nil => exact plays_pure reporter.color ()
  | cons execution executions =>
    have hsome : (execution :: executions).map entry ≠ [] := List.cons_ne_nil _ _
    rw [if_neg hsome, ← List.flatMap_def]
    exact (plays_write reporter [_]).bind ((plays_write reporter [_, _]).bind
      (plays_forM fun execution _ => h execution))

theorem plays_writeDrillDownCase (case : Protocol.Case) :
    Plays (reporter.writeDrillDownCase case) reporter.color (drillDownCase case) () :=
  (plays_write reporter _).bind (plays_forM fun _ _ => plays_write reporter _)

theorem plays_writeDrillDown (execution : Run.Execution) :
    Plays (reporter.writeDrillDown execution) reporter.color (drillDown reporter.base execution) () :=
  (plays_write reporter [_]).bind ((plays_write reporter _).bind
    (plays_forM fun case _ => plays_writeDrillDownCase reporter case))

theorem plays_writeTerminated (executions : List Run.Execution) :
    Plays (reporter.writeTerminated executions) reporter.color (terminatedSection reporter.base executions) () :=
  plays_writeSection reporter (plays_writeDrillDown reporter) _ _

theorem plays_writeDump (execution : Run.Execution) :
    Plays (reporter.writeDump execution) reporter.color (dump reporter.base execution) () :=
  (plays_write reporter [_, _]).bind ((plays_write reporter [_]).bind (plays_write reporter _))

theorem plays_writeSanitizerOutput (executions : List Run.Execution) :
    Plays (reporter.writeSanitizerOutput executions) reporter.color (sanitizerSection reporter.base executions) () :=
  plays_writeSection reporter (plays_writeDump reporter) _ _

theorem plays_writeSummary (stats : Stats) (elapsed : Option Duration) :
    Plays (reporter.writeSummary stats elapsed) reporter.color (summary stats elapsed) () :=
  (plays_write reporter [_]).bind ((plays_write reporter [_]).bind ((plays_write reporter _).bind
    ((plays_write reporter _).bind ((plays_write reporter _).bind ((plays_write reporter _).bind
      (plays_write reporter _))))))

theorem plays_writeBanner (variant : Text) :
    Plays (reporter.writeBanner variant) reporter.color (banner variant) () :=
  plays_write reporter _

/-- **The whole report** plays all passes, has everything passed on, and gives back the counts. -/
theorem concludes_writeReport (executions : List Run.Execution) (elapsed : Duration) :
    Concludes (reporter.writeReport executions elapsed) reporter.color
      (report reporter.base executions elapsed) (Stats.ofExecutions executions) := by
  have hflush : Concludes (Writing.flush >>= fun _ => pure (Stats.ofExecutions executions)) reporter.color []
      (Stats.ofExecutions executions) := (concludes_flush reporter.color).bind_pure _
  have hsummary : Concludes (reporter.writeSummary (Stats.ofExecutions executions) (some elapsed) >>= fun _ =>
      Writing.flush >>= fun _ => pure (Stats.ofExecutions executions)) reporter.color
      (summary (Stats.ofExecutions executions) (some elapsed)) (Stats.ofExecutions executions) := by
    rw [← List.append_nil (summary _ _)]
    exact (plays_writeSummary reporter _ (some elapsed)).bind_concludes hflush
  refine (plays_writeCaseTable reporter executions).bind_concludes ?_
  refine (plays_writeTerminated reporter executions).bind_concludes ?_
  exact (plays_writeSanitizerOutput reporter executions).bind_concludes hsummary

end

end Report
end TestBench
