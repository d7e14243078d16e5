/-
# The sections below the case table

| section | which executions | what it shows of each |
| --- | --- | --- |
| terminated tests | those that did not end well and have a case or a remark | location, outcome, cases with their notes |
| sanitizer output | those that wrote to standard error | location, and what they wrote |

A section without executions is not written at all.  A line above the report of a sanitizer variant
introduces it.
-/

import TestBench.Report.Table

namespace TestBench
namespace Report

/-- One step of indentation. -/
def indent : Piece := Piece.spaces 4

/-- A case by its name and line. -/
def caseTitle (case : Protocol.Case) : Text := case.name ++ ':' :: Decimal.write case.line

/-- The execution is listed among the terminated tests. -/
def isDrilledDown (execution : Run.Execution) : Bool :=
  !execution.isOk && (execution.cases ≠ [] || execution.diagnostic.isSome)

/-- The execution wrote to standard error. -/
def hasSanitizerOutput (execution : Run.Execution) : Bool := execution.stderr ≠ []

/-- The outcome of an execution in parentheses. -/
def outcomePieces (execution : Run.Execution) : List Piece :=
  match execution.outcome? with
  | some outcome => [.text (" (".toList ++ outcome ++ ")".toList)]
  | none => []

/-- The end that raw output lacks to be a sequence of whole lines. -/
def missingLineEnd (output : Bytes) : List Piece :=
  if output.getLast? = some 10 then [] else [.lineEnd]

namespace Reporter

/-- The line that introduces the report of a sanitizer variant is written. -/
def writeBanner (reporter : Reporter) (variant : Text) : Writing Unit :=
  reporter.write [.styled .banner ("Running sanitizers for ".toList ++ variant), .lineEnd]

/-- A blank line and a header are written, and then the entries of the executions, if there are any. -/
def writeSection (reporter : Reporter) (header : Text) (writeEntry : Run.Execution → Writing Unit)
    (executions : List Run.Execution) : Writing Unit :=
  unless executions.isEmpty do
    reporter.write [.lineEnd]
    reporter.write [.styled .strong header, .lineEnd]
    executions.forM writeEntry

/-- A note is written, two steps in. -/
def writeNote (reporter : Reporter) (note : Protocol.Note) : Writing Unit :=
  reporter.write [indent, indent, .text note.position, .text ": ".toList, .text note.message, .lineEnd]

/-- A case is written by its name and line, one step in, and then its notes. -/
def writeDrillDownCase (reporter : Reporter) (case : Protocol.Case) : Writing Unit := do
  reporter.write [indent, .styled (Style.ofStatus case.status) (caseTitle case), .lineEnd]
  case.notes.forM reporter.writeNote

/-- An execution is written that did not end well: its location, its outcome in parentheses, and its
cases. -/
def writeDrillDown (reporter : Reporter) (execution : Run.Execution) : Writing Unit := do
  reporter.write [.styled .strong (shownLocation reporter.base execution)]
  reporter.write (outcomePieces execution ++ [.lineEnd])
  execution.cases.forM reporter.writeDrillDownCase

/-- The section of the executions that did not end well is written. -/
def writeTerminated (reporter : Reporter) (executions : List Run.Execution) : Writing Unit :=
  reporter.writeSection "Terminated tests:".toList reporter.writeDrillDown
    (executions.filter isDrilledDown)

/-- What an execution wrote to standard error is written below its location, and the end of its last line
if that is missing. -/
def writeDump (reporter : Reporter) (execution : Run.Execution) : Writing Unit := do
  reporter.write [.styled .strong (shownLocation reporter.base execution), .lineEnd]
  reporter.write [.bytes execution.stderr]
  reporter.write (missingLineEnd execution.stderr)

/-- The section of what was written to standard error is written. -/
def writeSanitizerOutput (reporter : Reporter) (executions : List Run.Execution) : Writing Unit :=
  reporter.writeSection "Sanitizer output:".toList reporter.writeDump
    (executions.filter hasSanitizerOutput)

end Reporter
end Report
end TestBench
