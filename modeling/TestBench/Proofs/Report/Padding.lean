/-
# Which rows can be padded

Behind a padded cell stand the spaces that it lacks of its column, and the column is as wide as its widest
cell.  No more than `Piece.greatestCount` spaces can be asked for.

| definition | what it is |
| --- | --- |
| `IsGreatestWidth` | the width is that of the widest cell |
| `Row.FitsColumn` | the cell of a row does not lack more of a column than can be asked for |
| `Row.IsPaddable` | that of its position, and of its name if a message follows |
| `IsPaddable` | all rows of a run are paddable |

The case table of a run is in range iff the run is paddable (`inRange_caseTable_iff`).  The other passes have no
padded cells and are always in range.
-/

import TestBench.Proofs.Report.Pieces
import TestBench.Proofs.Text.Width

namespace TestBench
namespace Report

/-! ### The width of a column -/

/-- A width is the greatest of the cells; it is none at all if there are no cells. -/
def IsGreatestWidth (cells : List Text) (n : Nat) : Prop :=
  (∀ cell ∈ cells, Text.width cell ≤ n) ∧ (cells = [] ∧ n = 0 ∨ ∃ cell ∈ cells, Text.width cell = n)

/-- **A column is as wide as its widest cell.** -/
theorem isGreatestWidth_columnWidth (cells : List Text) : IsGreatestWidth cells (columnWidth cells) := by
  have hmax : columnWidth cells = (cells.map Text.width).max?.getD 0 := by
    rw [columnWidth, List.foldl_max, Nat.zero_max]
  rw [hmax]
  cases hwidths : (cells.map Text.width).max? with
  | none =>
    rw [List.max?_eq_none_iff, List.map_eq_nil_iff] at hwidths
    subst hwidths
    exact ⟨fun cell hcell => absurd hcell List.not_mem_nil, .inl ⟨rfl, rfl⟩⟩
  | some n =>
    obtain ⟨hmem, hle⟩ := List.max?_eq_some_iff.1 hwidths
    obtain ⟨widest, hwidest, hwidth⟩ := List.mem_map.1 hmem
    exact ⟨fun cell hcell => hle _ (List.mem_map_of_mem hcell), .inr ⟨widest, hwidest, hwidth⟩⟩

/-- Two wide characters are wider than three narrow ones. -/
example : columnWidth ["検査".toList, "abc".toList, []] = 4 := by decide +kernel

/-- A column is no wider than what bounds all its cells. -/
theorem columnWidth_le_iff {cells : List Text} {n : Nat} :
    columnWidth cells ≤ n ↔ ∀ cell ∈ cells, Text.width cell ≤ n := by
  obtain ⟨hle, ⟨-, hzero⟩ | ⟨widest, hwidest, hwidth⟩⟩ := isGreatestWidth_columnWidth cells
  · rw [hzero] at hle ⊢
    exact ⟨fun _ cell hcell => (hle cell hcell).trans (Nat.zero_le n), fun _ => Nat.zero_le n⟩
  · exact ⟨fun h cell hcell => (hle cell hcell).trans h, fun h => hwidth ▸ h widest hwidest⟩

/-! ### Rows -/

namespace Row

/-- The cell of a row lacks no more spaces than can be asked for, of the width that the rows need. -/
def FitsColumn (cell : Row → Text) (rows : List Row) (row : Row) : Prop :=
  ∀ other ∈ rows, Text.width (cell other) ≤ Text.width (cell row) + Piece.greatestCount

/-- The row can be padded among these rows: its position, and its name if a message follows. -/
def IsPaddable (rows : List Row) (row : Row) : Prop :=
  row.FitsColumn position rows ∧ (row.case.message ≠ none → row.FitsColumn (fun row => row.case.name) rows)

theorem fitsColumn_perm {cell : Row → Text} {rows rows' : List Row} (h : rows.Perm rows') {row : Row} :
    row.FitsColumn cell rows ↔ row.FitsColumn cell rows' :=
  forall_congr' fun _ => imp_congr_left h.mem_iff

theorem isPaddable_perm {rows rows' : List Row} (h : rows.Perm rows') {row : Row} :
    row.IsPaddable rows ↔ row.IsPaddable rows' :=
  and_congr (fitsColumn_perm h) (imp_congr_right fun _ => fitsColumn_perm h)

instance (cell : Row → Text) (rows : List Row) (row : Row) : Decidable (row.FitsColumn cell rows) :=
  inferInstanceAs (Decidable (∀ other ∈ rows, _ ≤ _))

instance (rows : List Row) (row : Row) : Decidable (row.IsPaddable rows) :=
  inferInstanceAs (Decidable (_ ∧ (_ → _)))

/-- A cell fits iff the spaces that it lacks can be asked for. -/
theorem fitsColumn_iff {cellOf : Row → Text} {rows : List Row} {row : Row} :
    row.FitsColumn cellOf rows
      ↔ columnWidth (rows.map cellOf) - Text.width (cellOf row) ≤ Piece.greatestCount := by
  rw [Nat.sub_le_iff_le_add', columnWidth_le_iff, List.forall_mem_map]
  rfl

/-- A padded cell is in range iff it fits its column. -/
theorem isInRange_cell_iff (style : Option Style) (cellOf : Row → Text) (rows : List Row) (row : Row) :
    (cell style (cellOf row) (columnWidth (rows.map cellOf))).isInRange = true ↔ row.FitsColumn cellOf rows := by
  rw [cell, Piece.isInRange, decide_eq_true_eq, fitsColumn_iff]

/-- No status lacks more than can be asked for. -/
theorem fitsColumn_status (rows : List Row) (row : Row) : row.FitsColumn (fun row => row.case.status.text) rows := by
  intro other _
  have hwidth : Text.width other.case.status.text ≤ Piece.greatestCount := by
    cases other.case.status <;> decide +kernel
  exact hwidth.trans (Nat.le_add_left _ _)

/-- **A row is in range** iff it is paddable. -/
theorem inRange_pieces_iff {rows : List Row} {row : Row} :
    inRange (row.pieces (Columns.ofRows rows)) = true ↔ row.IsPaddable rows := by
  have hstatus : (cell (some (Style.ofStatus row.case.status)) row.case.status.text
      (Columns.ofRows rows).status).isInRange = true :=
    (isInRange_cell_iff _ (fun row => row.case.status.text) rows row).2 (fitsColumn_status rows row)
  have hposition : (cell none row.position (Columns.ofRows rows).position).isInRange = true
      ↔ row.FitsColumn position rows := isInRange_cell_iff none position rows row
  have hname : (cell none row.case.name (Columns.ofRows rows).name).isInRange = true
      ↔ row.FitsColumn (fun row => row.case.name) rows := isInRange_cell_iff none (fun row => row.case.name) rows row
  have hgap : gap.isInRange = true := rfl
  rw [pieces, inRange_append, inRange_cons, inRange_cons, inRange_cons, inRange_cons, hstatus, hgap, IsPaddable,
    ← hposition, ← hname]
  cases row.case.message with
  | some message =>
    have hrest : inRange [gap, .text message, .lineEnd] = true := rfl
    rw [inRange_cons, hrest]
    simp
  | none =>
    have hrest : inRange [.text row.case.name, .lineEnd] = true := rfl
    simp [hrest]

end Row

/-! ### Runs -/

/-- All rows of a run can be padded. -/
def IsPaddable (base : Option Text) (executions : List Run.Execution) : Prop :=
  ∀ row ∈ Row.reported base executions, row.IsPaddable (Row.reported base executions)

instance (base : Option Text) (executions : List Run.Execution) : Decidable (IsPaddable base executions) :=
  inferInstanceAs (Decidable (∀ row ∈ _, _))

/-- Without executions there is nothing to pad. -/
theorem isPaddable_nil (base : Option Text) : IsPaddable base [] := fun _ hrow => absurd hrow List.not_mem_nil

theorem Row.sorted_perm (base : Option Text) (executions : List Run.Execution) :
    (sorted base executions).Perm (reported base executions) := List.mergeSort_perm _ _

theorem inRange_caseTable_iff {base : Option Text} {executions : List Run.Execution} :
    inRange (caseTable base executions) = true ↔ IsPaddable base executions := by
  have hperm := Row.sorted_perm base executions
  rw [caseTable, inRange_flatMap, List.all_eq_true]
  simp only [Row.inRange_pieces_iff, Row.isPaddable_perm hperm, hperm.mem_iff]
  rfl

/-- A case whose name is wider by more than can be padded than that of `messageCase`. -/
def wideCase : Protocol.Case :=
  { line := 1, name := List.replicate 65540 'x', status := .pass, message := none, notes := [] }

/-- A case with a message. -/
def messageCase : Protocol.Case :=
  { line := 2, name := "y".toList, status := .fail, message := some "boom".toList, notes := [] }

/-- A binary with these cases. -/
def sprawling (path : Text) : Run.Execution :=
  { path, sourceFile := some "a.c".toList, status := .ok, exit := some (.ofCode 0), cases := [wideCase, messageCase]
    stderr := [], diagnostic := none }

/-- A run with that binary cannot be padded, wherever it is shown. -/
theorem not_isPaddable_sprawling (base : Option Text) (path : Text) : ¬IsPaddable base [sprawling path] := by
  intro h
  have hwide : Text.width wideCase.name = 65540 := Text.width_replicate (by decide +kernel) 65540
  have hnarrow : Text.width messageCase.name = 1 := by decide +kernel
  have hrow := (h { location := shownLocation base (sprawling path), case := messageCase }
    (List.mem_append_left _ (List.mem_cons_of_mem _ List.mem_cons_self))).2 (Option.some_ne_none _)
    { location := shownLocation base (sprawling path), case := wideCase }
    (List.mem_append_left _ List.mem_cons_self)
  have hle : Text.width wideCase.name ≤ Text.width messageCase.name + 65535 := hrow
  omega

/-! ### The other passes -/

theorem inRange_headed {header : Text} {entries : List (List Piece)} (h : ∀ entry ∈ entries, inRange entry = true) :
    inRange (headed header entries) = true := by
  have hentries : inRange entries.flatten = true := by
    rw [← List.flatMap_id, inRange_flatMap, List.all_eq_true]
    exact h
  rw [headed]
  split
  · rfl
  · rw [inRange_append, hentries]
    rfl

theorem inRange_drillDownCase (case : Protocol.Case) : inRange (drillDownCase case) = true := by
  have hnotes : inRange (case.notes.flatMap notePieces) = true := by
    rw [inRange_flatMap, List.all_eq_true]
    exact fun note _ => rfl
  rw [drillDownCase, inRange_append, hnotes]
  rfl

theorem inRange_drillDown (base : Option Text) (execution : Run.Execution) :
    inRange (drillDown base execution) = true := by
  have hcases : inRange (execution.cases.flatMap drillDownCase) = true := by
    rw [inRange_flatMap, List.all_eq_true]
    exact fun case _ => inRange_drillDownCase case
  have houtcome : inRange (outcomePieces execution) = true := by
    rw [outcomePieces]
    split <;> rfl
  rw [drillDown, inRange_append, inRange_append, inRange_append, houtcome, hcases]
  rfl

theorem inRange_terminatedSection (base : Option Text) (executions : List Run.Execution) :
    inRange (terminatedSection base executions) = true :=
  inRange_headed (List.forall_mem_map.2 fun execution _ => inRange_drillDown base execution)

theorem inRange_dump (base : Option Text) (execution : Run.Execution) : inRange (dump base execution) = true := by
  have hend : inRange (missingLineEnd execution.stderr) = true := by
    rw [missingLineEnd]
    split <;> rfl
  rw [dump, inRange_append, hend]
  rfl

theorem inRange_sanitizerSection (base : Option Text) (executions : List Run.Execution) :
    inRange (sanitizerSection base executions) = true :=
  inRange_headed (List.forall_mem_map.2 fun execution _ => inRange_dump base execution)

theorem inRange_summary (stats : Stats) (elapsed : Option Duration) : inRange (summary stats elapsed) = true := by
  have helapsed : inRange (elapsedPieces elapsed) = true := by
    cases elapsed <;> rfl
  have hterminated : inRange (terminatedPieces stats) = true := by
    rw [terminatedPieces]
    split <;> rfl
  have hunknown : inRange (unknownPieces stats) = true := by
    rw [unknownPieces]
    split <;> rfl
  have hcounts : inRange (countPieces stats) = true := rfl
  simp only [summary, inRange_append, helapsed, hcounts, hterminated, hunknown]
  rfl

theorem inRange_banner (variant : Text) : inRange (banner variant) = true := rfl

/-- **A report is in range** iff its case table is. -/
theorem inRange_report_iff {base : Option Text} {executions : List Run.Execution} {elapsed : Duration} :
    inRange (report base executions elapsed) = true ↔ IsPaddable base executions := by
  rw [report, inRange_append, inRange_append, inRange_append, inRange_terminatedSection, inRange_sanitizerSection,
    inRange_summary, Bool.and_self, Bool.and_self, Bool.and_true, inRange_caseTable_iff]

end Report
end TestBench
