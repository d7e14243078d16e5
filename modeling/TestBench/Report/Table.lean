/-
# The case table

One row per case of every binary:

    STATUS  POSITION  NAME
    STATUS  POSITION  NAME  MESSAGE

Ignored cases come first and failed ones last; rows of one status are ordered by the location that is
shown, compared by its bytes; rows that agree in both keep the order in which they were reported.
A cell is padded to the width of its column.  A name is padded only where a message follows.
-/

import TestBench.Path
import TestBench.Report.Writing
import TestBench.Run.Execution
import TestBench.Text.Width

namespace TestBench
namespace Report

/-- The location that is shown for an execution, taken from the directory `base`. -/
def shownLocation (base : Option Text) (execution : Run.Execution) : Text :=
  Path.display execution.location base

/-- A row of the case table. -/
structure Row where
  location : Text
  case : Protocol.Case
  deriving DecidableEq, Repr

namespace Row

/-- The position that a row shows: the location and the line of the case. -/
def position (row : Row) : Text := row.location ++ ':' :: Decimal.write row.case.line

/-- The order of the rows. -/
def le (a b : Row) : Bool :=
  a.case.status.rank < b.case.status.rank
    || (a.case.status.rank == b.case.status.rank
      && decide (Utf8.encode a.location ≤ Utf8.encode b.location))

/-- The rows of one execution. -/
def ofExecution (base : Option Text) (execution : Run.Execution) : List Row :=
  execution.cases.map fun case => { location := shownLocation base execution, case }

/-- The rows of a run in the order of their reporting. -/
def reported (base : Option Text) (executions : List Run.Execution) : List Row :=
  executions.flatMap (ofExecution base)

/-- The rows of the case table. -/
def sorted (base : Option Text) (executions : List Run.Execution) : List Row :=
  (reported base executions).mergeSort le

end Row

/-- The width of a column with these cells. -/
def columnWidth (cells : List Text) : Nat := (cells.map Text.width).foldl max 0

/-- The widths of the padded columns. -/
structure Columns where
  status : Nat
  position : Nat
  name : Nat
  deriving DecidableEq, Repr

/-- The widths that the rows need. -/
def Columns.ofRows (rows : List Row) : Columns :=
  { status := columnWidth (rows.map fun row => row.case.status.text)
    position := columnWidth (rows.map Row.position)
    name := columnWidth (rows.map fun row => row.case.name) }

/-- The gap between two columns. -/
def gap : Piece := .text "  ".toList

/-- A cell and the spaces that it lacks of its column. -/
def cell (style : Option Style) (text : Text) (width : Nat) : Piece :=
  .padded style text (width - Text.width text)

namespace Reporter

/-- A row is written. -/
def writeRow (reporter : Reporter) (columns : Columns) (row : Row) : Writing Unit := do
  let status := row.case.status
  reporter.write [cell (some (Style.ofStatus status)) status.text columns.status]
  reporter.write [gap]
  reporter.write [cell none row.position columns.position]
  reporter.write [gap]
  match row.case.message with
  | some message =>
    reporter.write [cell none row.case.name columns.name]
    reporter.write [gap, .text message, .lineEnd]
  | none => reporter.write [.text row.case.name, .lineEnd]

/-- The case table is written. -/
def writeCaseTable (reporter : Reporter) (executions : List Run.Execution) : Writing Unit := do
  let rows := Row.sorted reporter.base executions
  rows.forM (reporter.writeRow (Columns.ofRows rows))

end Reporter
end Report
end TestBench
