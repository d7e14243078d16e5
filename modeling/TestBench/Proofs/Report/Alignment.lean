/-
# The columns of the case table line up

The width of a column is the greatest of its cells, over all rows.  A padded cell is followed by the spaces
that it lacks of that, so with them it takes as many columns of the terminal as every other cell above and
below it.

| part of a row | columns of the terminal |
| --- | --- |
| the status and its spaces, a gap | `columns.status + 2` |
| the position and its spaces, a gap | `columns.position + 2` |
| the name and its spaces, a gap, if a message follows | `columns.name + 2` |
| the name, if none follows | its own |

Widths do not add up in general: a cell may begin with what is joined to the character before it.  Here they
do, since spaces stand between the cells.
-/

import TestBench.Proofs.Report.CaseTable
import TestBench.Proofs.Report.Color
import TestBench.Proofs.Text.Width

namespace TestBench
namespace Report

/-! ### Cells and their spaces -/

/-- The spaces behind a cell are those that it lacks of its column, and with them it takes the column. -/
structure FillsColumn (cell : Text) (spaces column : Nat) : Prop where
  lacks : Text.width cell + spaces = column
  takes : Text.width (cell ++ List.replicate spaces ' ') = column

/-- In a column that is no narrower than the cell, the difference is not cut off. -/
theorem fillsColumn_of_le {cell : Text} {column : Nat} (h : Text.width cell ≤ column) :
    FillsColumn cell (column - Text.width cell) column := by
  have hlacks : Text.width cell + (column - Text.width cell) = column := by omega
  exact ⟨hlacks, by rw [Text.width_append_spaces, hlacks]⟩

/-- A cell, the spaces behind it, and the gap before the next cell. -/
def padded (cell : Text) (spaces : Nat) : Text := cell ++ List.replicate spaces ' ' ++ "  ".toList

/-- What stands behind a padded cell begins two columns behind the cell's column. -/
theorem FillsColumn.width_padded_append {cell : Text} {spaces column : Nat}
    (h : FillsColumn cell spaces column) (rest : Text) :
    Text.width (padded cell spaces ++ rest) = column + 2 + Text.width rest := by
  have hgap : "  ".toList = List.replicate 2 ' ' := by decide
  rw [padded, hgap, Text.width_append_spaces_append _ _ (by decide), h.takes]

namespace Entry

/-- A row with so many spaces behind its cells stands in columns of these widths: each cell fills its column,
and what stands behind a padded cell begins where the columns before it end.  The last spaces are those before
a message. -/
structure Fits (base : Option Text) (columns : Columns) (entry : Entry) (m n k : Nat) : Prop where
  status : FillsColumn entry.case.status.text m columns.status
  position : FillsColumn (entry.position base) n columns.position
  name : FillsColumn entry.case.name k columns.name
  positionStart : Text.width (padded entry.case.status.text m) = columns.status + 2
  nameStart : Text.width (padded entry.case.status.text m ++ padded (entry.position base) n)
    = columns.status + 2 + (columns.position + 2)
  messageStart : Text.width (padded entry.case.status.text m ++ (padded (entry.position base) n
      ++ padded entry.case.name k))
    = columns.status + 2 + (columns.position + 2 + (columns.name + 2))

theorem fits_of_fillsColumn {base : Option Text} {columns : Columns} {entry : Entry} {m n k : Nat}
    (hstatus : FillsColumn entry.case.status.text m columns.status)
    (hposition : FillsColumn (entry.position base) n columns.position)
    (hname : FillsColumn entry.case.name k columns.name) : entry.Fits base columns m n k := by
  have halone {cell : Text} {spaces column : Nat} (h : FillsColumn cell spaces column) :
      Text.width (padded cell spaces) = column + 2 := by
    have hwidth := h.width_padded_append []
    rw [List.append_nil] at hwidth
    exact hwidth
  refine ⟨hstatus, hposition, hname, halone hstatus, ?_, ?_⟩
  · rw [hstatus.width_padded_append, halone hposition]
  · rw [hstatus.width_padded_append, hposition.width_padded_append, halone hname]

/-- The sequences around a status take nothing from it and add nothing to it. -/
theorem withoutSequences_statusCell (color : Bool) (entry : Entry) :
    withoutSequences (entry.statusCell color) = Utf8.encode entry.case.status.text := by
  have hescape : escape ∉ entry.case.status.text := by cases entry.case.status <;> decide
  have hread := withoutSequences_paint_append color (Style.ofStatus entry.case.status) hescape []
  rw [List.append_nil, withoutSequences_nil, List.append_nil] at hread
  exact hread

end Entry

/-! ### The rows -/

/-- The width of a column over the sorted rows is the greatest over the cases of the run. -/
theorem isGreatestWidth_ordered (base : Option Text) (executions : List Run.Execution) (cell : Row → Text) :
    IsGreatestWidth ((ordered base executions).map fun entry => cell (entry.row base))
      (columnWidth ((Row.sorted base executions).map cell)) := by
  rw [sorted_eq_map_row, List.map_map]
  exact isGreatestWidth_columnWidth _

/-- The position of a row can be padded iff the spaces that it lacks can be asked for. -/
theorem fitsColumn_position_iff {base : Option Text} {executions : List Run.Execution} {entry : Entry} :
    (entry.row base).FitsColumn Row.position (Row.reported base executions) ↔
      (Columns.ofRows (Row.sorted base executions)).position - Text.width (entry.position base)
        ≤ Piece.greatestCount := by
  rw [← Row.fitsColumn_perm (Row.sorted_perm base executions), Row.fitsColumn_iff]
  rfl

/-- A row can be padded iff the spaces that its cells lack can be asked for. -/
theorem isPaddable_iff_lacks {base : Option Text} {executions : List Run.Execution} {entry : Entry} :
    entry.IsPaddable base executions ↔
      (Columns.ofRows (Row.sorted base executions)).position - Text.width (entry.position base) ≤ Piece.greatestCount ∧
      (entry.case.message ≠ none →
        (Columns.ofRows (Row.sorted base executions)).name - Text.width entry.case.name ≤ Piece.greatestCount) := by
  rw [Entry.IsPaddable, Row.IsPaddable, fitsColumn_position_iff,
    ← Row.fitsColumn_perm (Row.sorted_perm base executions), Row.fitsColumn_iff]
  rfl

/-- **The columns of the case table line up.**  In every row a padded cell is followed by just the spaces that
it lacks of the greatest width of its column, and takes the column with them, so that the next cell begins at
the same place in all rows.  Colour adds terminal sequences around the status and changes no spaces.  A name
without a message behind it ends its row.  All this holds of what a sink takes, up to where it is full or up to
the first cell that lacks more spaces than can be asked for: there the program crashes. -/
theorem caseTable_aligned (base : Option Text) (executions : List Run.Execution) :
    ∃ (order : List Entry) (columns : Columns) (m n k : Entry → Nat),
      (order.map fun entry => (entry.test, entry.place)).Nodup ∧
      (∀ entry, entry ∈ order ↔ entry.IsOf executions) ∧
      IsGreatestWidth (order.map fun entry => entry.case.status.text) columns.status ∧
      IsGreatestWidth (order.map (Entry.position base)) columns.position ∧
      IsGreatestWidth (order.map fun entry => entry.case.name) columns.name ∧
      (∀ entry ∈ order, entry.Fits base columns (m entry) (n entry) (k entry)) ∧
      (∀ color, ∀ entry ∈ order,
        withoutSequences (entry.statusCell color) = Utf8.encode entry.case.status.text) ∧
      (∀ entry, entry.IsPaddable base executions ↔
        n entry ≤ Piece.greatestCount ∧ (entry.case.message ≠ none → k entry ≤ Piece.greatestCount)) ∧
      ((∀ entry ∈ order, entry.IsPaddable base executions) → ∀ (sink : Sink) color,
        let bytes := (order.map fun entry =>
          entry.rowAt color (entry.position base) (m entry) (n entry) (k entry)).flatten
        Reporter.writeCaseTable { color, base } executions sink = (sink.push bytes, sink.ending bytes true ())) ∧
      ∀ before entry behind, order = before ++ entry :: behind →
        (∀ row ∈ before, Entry.IsPaddable base executions row) → ¬entry.IsPaddable base executions →
        ∀ (sink : Sink) color,
          let bytes := (before.map fun entry =>
              entry.rowAt color (entry.position base) (m entry) (n entry) (k entry)).flatten
            ++ entry.stub color base (decide (n entry ≤ Piece.greatestCount)) (m entry) (n entry)
          Reporter.writeCaseTable { color, base } executions sink
            = (sink.push bytes, sink.ending bytes false ()) := by
  let columns := Columns.ofRows (Row.sorted base executions)
  have htable := tabulates false base executions
  have hstatus : IsGreatestWidth ((ordered base executions).map fun entry => entry.case.status.text)
      columns.status := isGreatestWidth_ordered base executions fun row => row.case.status.text
  have hposition : IsGreatestWidth ((ordered base executions).map (Entry.position base)) columns.position :=
    isGreatestWidth_ordered base executions Row.position
  have hname : IsGreatestWidth ((ordered base executions).map fun entry => entry.case.name) columns.name :=
    isGreatestWidth_ordered base executions fun row => row.case.name
  refine ⟨ordered base executions, columns, fun entry => columns.status - Text.width entry.case.status.text,
    fun entry => columns.position - Text.width (entry.position base),
    fun entry => columns.name - Text.width entry.case.name, htable.nodup, htable.mem_iff, hstatus, hposition, hname,
    fun entry hentry => ?_, fun color entry _ => entry.withoutSequences_statusCell color,
    fun entry => isPaddable_iff_lacks, fun h sink color => ?_,
    fun before entry behind horder hbefore hentry sink color => ?_⟩
  · exact Entry.fits_of_fillsColumn
      (fillsColumn_of_le (hstatus.1 _ (List.mem_map_of_mem hentry)))
      (fillsColumn_of_le (hposition.1 _ (List.mem_map_of_mem hentry)))
      (fillsColumn_of_le (hname.1 _ (List.mem_map_of_mem hentry)))
  · have hpaddable := isPaddable_iff_ordered.2 h
    have hplays := plays_writeCaseTable { color, base } executions sink
    rw [written_caseTable hpaddable, inRange_caseTable_iff.2 hpaddable] at hplays
    exact hplays
  · have hnot : ¬IsPaddable base executions := fun h =>
      hentry (isPaddable_iff_ordered.1 h entry (horder ▸ List.mem_append_right _ List.mem_cons_self))
    have hrange : inRange (caseTable base executions) = false :=
      Bool.eq_false_iff.2 (mt inRange_caseTable_iff.1 hnot)
    have hplays := plays_writeCaseTable { color, base } executions sink
    rw [written_caseTable_append horder hbefore hentry, written_pieces hentry, hrange,
      decide_eq_decide.2 fitsColumn_position_iff] at hplays
    exact hplays

end Report
end TestBench
