/-
# The rows of the case table

Each case of a run has a row, and its place among the rows is known.

| definition | what it is |
| --- | --- |
| `Entry` | a case of a run, with the numbers of its execution and of its place there |
| `entries` | the cases of a run in the order of their reporting |
| `Entry.KeyLe`, `Entry.KeyEq` | how the rows of two cases compare by status and location |
| `Entry.IsReportedBefore` | the order of the reporting |
| `Entry.rowAt` | the bytes of the row of a case, with so many spaces behind its cells |
| `Entry.stub` | the bytes of a row up to a cell that cannot be padded |
| `Entry.Shows` | the bytes are the row of a case, up to the spaces that fill the columns |
| `Tabulates` | the lines are the rows of a run, in their order |

The rows are the sorted entries (`sorted_eq_map_row`), and a stable sort keeps the order of what it finds
equal (`pairwise_mergeSort_of_pairwise`).  All of them are written if all can be padded, and else those before
the first that cannot (`caseTable_rows`).
-/

import TestBench.Proofs.Report.Padding
import Mathlib.Data.List.Forall2

namespace TestBench
namespace Report

/-- **A stable sort** puts nothing before a smaller element, and keeps a relation that holds along the
list among elements that are equal. -/
theorem pairwise_mergeSort_of_pairwise {α : Type} {s : α → α → Prop} {l : List α} (le : α → α → Bool)
    (htrans : ∀ a b c, le a b = true → le b c = true → le a c = true)
    (htotal : ∀ a b, (le a b || le b a) = true) (h : l.Pairwise s) :
    (l.mergeSort le).Pairwise fun a b => le a b = true ∧ (le b a = true → s a b) := by
  -- The elements are numbered, and among equal ones the numbers decide.
  have hperm := List.mergeSort_perm l.zipIdx (List.zipIdxLE le)
  have hsorted := List.pairwise_mergeSort (List.zipIdxLE_trans htrans) (List.zipIdxLE_total htotal)
    l.zipIdx
  have hnumbers : (l.zipIdx.mergeSort (List.zipIdxLE le)).Pairwise fun a b => a.2 ≠ b.2 := by
    have hnodup : ((l.zipIdx.mergeSort (List.zipIdxLE le)).map Prod.snd).Nodup := by
      rw [(hperm.map Prod.snd).nodup_iff, List.zipIdx_map_snd]
      exact List.nodup_range' _
    exact List.pairwise_map.1 hnodup
  rw [← List.mergeSort_zipIdx, List.pairwise_map]
  refine (hsorted.and hnumbers).imp_of_mem ?_
  rintro ⟨a, i⟩ ⟨b, j⟩ ha hb ⟨hle, hne⟩
  have hi : l[i]? = some a := List.mem_zipIdx_iff_getElem?.1 (hperm.mem_iff.1 ha)
  have hj : l[j]? = some b := List.mem_zipIdx_iff_getElem?.1 (hperm.mem_iff.1 hb)
  obtain ⟨hilt, rfl⟩ := List.getElem?_eq_some_iff.1 hi
  obtain ⟨hjlt, rfl⟩ := List.getElem?_eq_some_iff.1 hj
  rw [List.zipIdxLE] at hle
  split at hle
  next hab =>
    refine ⟨hab, fun hba => ?_⟩
    rw [if_pos hba, decide_eq_true_eq] at hle
    exact List.pairwise_iff_getElem.1 h i j hilt hjlt (Nat.lt_of_le_of_ne hle hne)
  next => simp at hle

/-! ### The order of the rows -/

namespace Row

/-- The bytes of the location that a row shows. -/
def key (row : Row) : Bytes := Utf8.encode row.location

theorem le_iff {a b : Row} : a.le b = true ↔ a.case.status.rank < b.case.status.rank ∨
    a.case.status.rank = b.case.status.rank ∧ a.key ≤ b.key := by
  rw [le, Bool.or_eq_true, Bool.and_eq_true, decide_eq_true_eq, decide_eq_true_eq, beq_iff_eq]
  rfl

theorem le_trans (a b c : Row) (hab : a.le b = true) (hbc : b.le c = true) : a.le c = true := by
  rw [le_iff] at hab hbc ⊢
  rcases hab with hab | ⟨hab, hkey⟩
  · rcases hbc with hbc | ⟨hbc, -⟩
    · exact .inl (Nat.lt_trans hab hbc)
    · exact .inl (by omega)
  · rcases hbc with hbc | ⟨hbc, hkey'⟩
    · exact .inl (by omega)
    · exact .inr ⟨hab.trans hbc, List.le_trans hkey hkey'⟩

theorem le_total (a b : Row) : (a.le b || b.le a) = true := by
  rw [Bool.or_eq_true, le_iff, le_iff]
  rcases Nat.lt_trichotomy a.case.status.rank b.case.status.rank with hlt | heq | hgt
  · exact .inl (.inl hlt)
  · rcases List.le_total a.key b.key with hkey | hkey
    · exact .inl (.inr ⟨heq, hkey⟩)
    · exact .inr (.inr ⟨heq.symm, hkey⟩)
  · exact .inr (.inl hgt)

end Row

/-! ### The cases of a run -/

/-- A case of a run: the number and the data of its execution, and of the case in it. -/
structure Entry where
  test : Nat
  execution : Run.Execution
  place : Nat
  case : Protocol.Case

namespace Entry

/-- The case is there, in the run. -/
def IsOf (executions : List Run.Execution) (entry : Entry) : Prop :=
  executions[entry.test]? = some entry.execution ∧ entry.execution.cases[entry.place]? = some entry.case

/-- The row of the case. -/
def row (base : Option Text) (entry : Entry) : Row :=
  { location := shownLocation base entry.execution, case := entry.case }

/-- One case is reported before another. -/
def IsReportedBefore (a b : Entry) : Prop := a.test < b.test ∨ a.test = b.test ∧ a.place < b.place

/-- One case has the lower status, or the same status and no greater location. -/
def KeyLe (base : Option Text) (a b : Entry) : Prop :=
  a.case.status.rank < b.case.status.rank ∨ a.case.status.rank = b.case.status.rank ∧
    Utf8.encode (Path.display a.execution.location base) ≤ Utf8.encode (Path.display b.execution.location base)

/-- Two cases have the same status and the same location. -/
def KeyEq (base : Option Text) (a b : Entry) : Prop :=
  a.case.status.rank = b.case.status.rank ∧
    Utf8.encode (Path.display a.execution.location base) = Utf8.encode (Path.display b.execution.location base)

/-- The position that the row of the case shows. -/
def position (base : Option Text) (entry : Entry) : Text :=
  Path.display entry.execution.location base ++ ':' :: Decimal.write entry.case.line

/-- The status of the case as its row shows it, with its terminal sequences if there is colour. -/
def statusCell (color : Bool) (entry : Entry) : Bytes :=
  Utf8.encode ((Style.ofStatus entry.case.status).paint color entry.case.status.text)

/-- The bytes of the row of a case at this position: `m` spaces and a gap of two behind the status, `n` and a gap
behind the position, and `k` and a gap behind the name if a message follows; otherwise the name ends the row. -/
def rowAt (color : Bool) (position : Text) (entry : Entry) (m n k : Nat) : Bytes :=
  entry.statusCell color
    ++ Utf8.encode (List.replicate m ' ' ++ "  ".toList ++ position ++ List.replicate n ' ' ++ "  ".toList
      ++ entry.case.name
      ++ (match entry.case.message with
        | some message => List.replicate k ' ' ++ "  ".toList ++ message
        | none => [])
      ++ "\n".toList)

/-- The bytes of a row up to its position, if that cannot be padded, or up to its name. -/
def stub (color : Bool) (base : Option Text) (entry : Entry) (atName : Bool) (m n : Nat) : Bytes :=
  entry.statusCell color ++ Utf8.encode (List.replicate m ' ' ++ "  ".toList)
    ++ if atName then Utf8.encode (entry.position base ++ List.replicate n ' ' ++ "  ".toList) else []

/-- A line is the row of the case at this position, with some spaces behind its cells. -/
def ShowsAt (color : Bool) (position : Text) (entry : Entry) (line : Bytes) : Prop :=
  ∃ m n k, line = entry.rowAt color position m n k

/-- A line is the row of the case: status, location and line, name, and the message if there is one. -/
def Shows (color : Bool) (base : Option Text) (entry : Entry) (line : Bytes) : Prop :=
  entry.ShowsAt color (entry.position base) line

theorem le_row_iff {base : Option Text} {a b : Entry} :
    (a.row base).le (b.row base) = true ↔ a.KeyLe base b :=
  Row.le_iff

theorem KeyEq.keyLe {base : Option Text} {a b : Entry} (h : a.KeyEq base b) : b.KeyLe base a :=
  .inr ⟨h.1.symm, by rw [h.2]; exact List.le_refl _⟩

end Entry

/-- The cases of one execution. -/
def entriesOf (test : Nat) (execution : Run.Execution) : List Entry :=
  execution.cases.zipIdx.map fun (case, place) => { test, execution, place, case }

/-- The cases of a run in the order of their reporting. -/
def entries (executions : List Run.Execution) : List Entry :=
  executions.zipIdx.flatMap fun (execution, test) => entriesOf test execution

theorem mem_entries_iff {executions : List Run.Execution} {entry : Entry} :
    entry ∈ entries executions ↔ entry.IsOf executions := by
  simp only [entries, entriesOf, Entry.IsOf, List.mem_flatMap, List.mem_map,
    List.mem_zipIdx_iff_getElem?, Prod.exists]
  constructor
  · rintro ⟨execution, test, htest, case, place, hplace, rfl⟩
    exact ⟨htest, hplace⟩
  · rintro ⟨htest, hplace⟩
    exact ⟨entry.execution, entry.test, htest, entry.case, entry.place, hplace, rfl⟩

theorem pairwise_zipIdx {α : Type} (l : List α) : l.zipIdx.Pairwise fun a b => a.2 < b.2 := by
  have hsorted : (l.zipIdx.map Prod.snd).Pairwise (· < ·) := by
    rw [List.zipIdx_map_snd]
    exact List.pairwise_lt_range' _
  exact List.pairwise_map.1 hsorted

/-- The cases of a run come in the order of their reporting. -/
theorem pairwise_entries (executions : List Run.Execution) :
    (entries executions).Pairwise Entry.IsReportedBefore := by
  rw [entries, List.pairwise_flatMap]
  constructor
  · rintro ⟨execution, test⟩ -
    show (entriesOf test execution).Pairwise Entry.IsReportedBefore
    rw [entriesOf, List.pairwise_map]
    exact (pairwise_zipIdx execution.cases).imp fun hplace => .inr ⟨rfl, hplace⟩
  · refine (pairwise_zipIdx executions).imp ?_
    rintro ⟨execution, test⟩ ⟨execution', test'⟩ htest a ha b hb
    obtain ⟨-, -, rfl⟩ := List.mem_map.1 ha
    obtain ⟨-, -, rfl⟩ := List.mem_map.1 hb
    exact .inl htest

theorem map_row_entriesOf (base : Option Text) (test : Nat) (execution : Run.Execution) :
    (entriesOf test execution).map (Entry.row base) = Row.ofExecution base execution := by
  have hcases := congrArg (List.map fun case => ({ location := shownLocation base execution, case } : Row))
    (List.zipIdx_map_fst 0 execution.cases)
  rw [List.map_map] at hcases
  rw [entriesOf, List.map_map]
  exact hcases

theorem map_row_entries (base : Option Text) (executions : List Run.Execution) :
    (entries executions).map (Entry.row base) = Row.reported base executions := by
  rw [entries, List.map_flatMap, Row.reported]
  simp only [map_row_entriesOf]
  rw [← List.flatMap_map Prod.fst, List.zipIdx_map_fst]

theorem nodup_entries (executions : List Run.Execution) :
    ((entries executions).map fun entry => (entry.test, entry.place)).Nodup := by
  rw [List.Nodup, List.pairwise_map]
  refine (pairwise_entries executions).imp fun hbefore heq => ?_
  obtain ⟨htest, hplace⟩ := Prod.mk.inj heq
  rcases hbefore with h | ⟨-, h⟩
  · omega
  · omega

/-! ### The cases in the order of the table -/

/-- The cases of a run in the order of the table. -/
def ordered (base : Option Text) (executions : List Run.Execution) : List Entry :=
  (entries executions).mergeSort fun a b => (a.row base).le (b.row base)

theorem ordered_perm (base : Option Text) (executions : List Run.Execution) :
    (ordered base executions).Perm (entries executions) :=
  List.mergeSort_perm _ _

/-- **The rows of the case table** are those of the sorted cases. -/
theorem sorted_eq_map_row (base : Option Text) (executions : List Run.Execution) :
    Row.sorted base executions = (ordered base executions).map (Entry.row base) := by
  rw [Row.sorted, ← map_row_entries, ordered, List.map_mergeSort]
  exact fun a _ b _ => rfl

theorem pairwise_ordered (base : Option Text) (executions : List Run.Execution) :
    (ordered base executions).Pairwise fun a b => a.KeyLe base b ∧ (a.KeyEq base b → a.IsReportedBefore b) := by
  have hsorted := pairwise_mergeSort_of_pairwise (fun a b : Entry => (a.row base).le (b.row base))
    (fun a b c => Row.le_trans _ _ _) (fun a b => Row.le_total _ _) (pairwise_entries executions)
  exact hsorted.imp fun ⟨hle, hties⟩ =>
    ⟨Entry.le_row_iff.1 hle, fun heq => hties (Entry.le_row_iff.2 heq.keyLe)⟩

/-- The row of the case can be padded, in its run. -/
def Entry.IsPaddable (base : Option Text) (executions : List Run.Execution) (entry : Entry) : Prop :=
  (entry.row base).IsPaddable (Row.reported base executions)

instance (base : Option Text) (executions : List Run.Execution) (entry : Entry) :
    Decidable (entry.IsPaddable base executions) :=
  inferInstanceAs (Decidable (Row.IsPaddable _ _))

theorem isPaddable_iff_ordered {base : Option Text} {executions : List Run.Execution} :
    IsPaddable base executions ↔ ∀ entry ∈ ordered base executions, entry.IsPaddable base executions := by
  rw [IsPaddable, ← map_row_entries, List.forall_mem_map]
  simp only [(ordered_perm base executions).mem_iff, Entry.IsPaddable, map_row_entries]

/-! ### The bytes of the rows -/

/-- The row of a case with the spaces that its cells lack of the columns. -/
def Entry.line (color : Bool) (base : Option Text) (columns : Columns) (entry : Entry) : Bytes :=
  entry.rowAt color (entry.position base) (columns.status - Text.width entry.case.status.text)
    (columns.position - Text.width (entry.position base)) (columns.name - Text.width entry.case.name)

/-- The pieces of a row: behind each padded cell stand the spaces that it lacks of its column. -/
theorem render_pieces (color : Bool) (base : Option Text) (columns : Columns) (entry : Entry) :
    render color ((entry.row base).pieces columns) = entry.line color base columns := by
  unfold Entry.line Entry.rowAt
  cases hmessage : entry.case.message with
  | some message =>
    simp [Row.pieces, Entry.row, hmessage, render, Piece.render, cell, gap, Piece.lineEnd, Row.position,
      Entry.position, Entry.statusCell, shownLocation]
  | none =>
    simp [Row.pieces, Entry.row, hmessage, render, Piece.render, cell, gap, Piece.lineEnd, Row.position,
      Entry.position, Entry.statusCell, shownLocation]

theorem inRange_pieces_row_iff {base : Option Text} {executions : List Run.Execution} {entry : Entry} :
    inRange ((entry.row base).pieces (Columns.ofRows (Row.sorted base executions))) = true
      ↔ entry.IsPaddable base executions :=
  Row.inRange_pieces_iff.trans (Row.isPaddable_perm (Row.sorted_perm base executions))

/-- A row is written up to the cell that cannot be padded. -/
theorem written_pieces {base : Option Text} {executions : List Run.Execution} {entry : Entry}
    (h : ¬entry.IsPaddable base executions) (color : Bool) :
    written color ((entry.row base).pieces (Columns.ofRows (Row.sorted base executions)))
      = entry.stub color base ((entry.row base).FitsColumn Row.position (Row.reported base executions))
        ((Columns.ofRows (Row.sorted base executions)).status - Text.width entry.case.status.text)
        ((Columns.ofRows (Row.sorted base executions)).position - Text.width (entry.position base)) := by
  let rows := Row.sorted base executions
  let statusCell := cell (some (Style.ofStatus entry.case.status)) entry.case.status.text (Columns.ofRows rows).status
  let positionCell := cell none (entry.row base).position (Columns.ofRows rows).position
  have hstatus : statusCell.isInRange = true :=
    (Row.isInRange_cell_iff _ (fun row => row.case.status.text) rows (entry.row base)).2 (Row.fitsColumn_status _ _)
  have hposition : positionCell.isInRange = true
      ↔ (entry.row base).FitsColumn Row.position (Row.reported base executions) :=
    (Row.isInRange_cell_iff none Row.position rows (entry.row base)).trans
      (Row.fitsColumn_perm (Row.sorted_perm base executions))
  by_cases hfits : (entry.row base).FitsColumn Row.position (Row.reported base executions)
  · obtain ⟨hsome, hname⟩ := Classical.not_imp.1 fun hname => h ⟨hfits, hname⟩
    obtain ⟨message, hmessage⟩ := Option.ne_none_iff_exists'.1 hsome
    have hnot := mt (Row.isInRange_cell_iff none (fun row => row.case.name) rows (entry.row base)).1
      (mt (Row.fitsColumn_perm (Row.sorted_perm base executions)).1 hname)
    have hfront : inRange [statusCell, gap, positionCell, gap] = true := by
      rw [inRange_cons, inRange_cons, inRange_cons, hstatus, hposition.2 hfits]
      rfl
    rw [Entry.stub, decide_eq_true hfits, if_pos rfl, Row.pieces, hmessage]
    refine (written_append_cons hfront hnot color _).trans ?_
    simp [render, Piece.render, statusCell, positionCell, cell, gap, Entry.statusCell, rows, Entry.row, Row.position,
      Entry.position, shownLocation]
  · have hfront : inRange [statusCell, gap] = true := by
      rw [inRange_cons, hstatus]
      rfl
    have hpieces := written_append_cons hfront (mt hposition.1 hfits) color
    rw [Entry.stub, decide_eq_false hfits, if_neg Bool.false_ne_true, List.append_nil]
    refine (hpieces _).trans ?_
    simp [render, Piece.render, statusCell, cell, gap, Entry.statusCell, rows]

theorem caseTable_eq (base : Option Text) (executions : List Run.Execution) :
    caseTable base executions = (ordered base executions).flatMap fun entry =>
      (entry.row base).pieces (Columns.ofRows (Row.sorted base executions)) :=
  calc
    caseTable base executions = (Row.sorted base executions).flatMap
        (Row.pieces (Columns.ofRows (Row.sorted base executions))) := rfl
    _ = _ := by rw [sorted_eq_map_row, List.flatMap_map]

/-- The lines of the case table. -/
def tableLines (color : Bool) (base : Option Text) (executions : List Run.Execution) : List Bytes :=
  (ordered base executions).map (Entry.line color base (Columns.ofRows (Row.sorted base executions)))

theorem render_caseTable (color : Bool) (base : Option Text) (executions : List Run.Execution) :
    render color (caseTable base executions) = (tableLines color base executions).flatten := by
  rw [caseTable_eq, render_flatMap]
  simp only [render_pieces]
  rfl

/-- All rows are written if all can be padded. -/
theorem written_caseTable {base : Option Text} {executions : List Run.Execution} (h : IsPaddable base executions)
    (color : Bool) : written color (caseTable base executions) = (tableLines color base executions).flatten := by
  rw [written_of_inRange (inRange_caseTable_iff.2 h), render_caseTable]

/-- There is a first row that cannot be padded, if not all can. -/
theorem exists_not_isPaddable {base : Option Text} {executions : List Run.Execution}
    (h : ¬IsPaddable base executions) :
    ∃ before entry behind, ordered base executions = before ++ entry :: behind ∧
      (∀ row ∈ before, Entry.IsPaddable base executions row) ∧ ¬entry.IsPaddable base executions := by
  rw [isPaddable_iff_ordered] at h
  simp only [← inRange_pieces_row_iff] at h ⊢
  exact exists_not_inRange h

/-- The rows before the first that cannot be padded are written, and what comes before its cell that cannot. -/
theorem written_caseTable_append {base : Option Text} {executions : List Run.Execution} {before behind : List Entry}
    {entry : Entry} (horder : ordered base executions = before ++ entry :: behind)
    (hbefore : ∀ row ∈ before, Entry.IsPaddable base executions row) (hentry : ¬entry.IsPaddable base executions)
    (color : Bool) :
    written color (caseTable base executions)
      = (before.map (Entry.line color base (Columns.ofRows (Row.sorted base executions)))).flatten
        ++ written color ((entry.row base).pieces (Columns.ofRows (Row.sorted base executions))) := by
  rw [caseTable_eq, horder, written_flatMap_append
    (fun row hrow => inRange_pieces_row_iff.2 (hbefore row hrow)) (mt inRange_pieces_row_iff.1 hentry)]
  simp only [render_pieces]

/-! ### What is written -/

/-- The lines are the rows of a run, one for each of its cases: those of lower status come first (ignored, passed,
failed), of one status those of lower location, and among cases that agree in both those that were reported first.
Each line shows the status, the location and line, the name, and the message, if there is one, of its own case. -/
structure Tabulates (color : Bool) (base : Option Text) (executions : List Run.Execution) (rows : List Entry)
    (lines : List Bytes) : Prop where
  nodup : (rows.map fun row => (row.test, row.place)).Nodup
  mem_iff : ∀ row, row ∈ rows ↔ row.IsOf executions
  sorted : rows.Pairwise fun a b => a.KeyLe base b ∧ (a.KeyEq base b → a.IsReportedBefore b)
  shows : List.Forall₂ (Entry.Shows color base) rows lines

theorem tabulates (color : Bool) (base : Option Text) (executions : List Run.Execution) :
    Tabulates color base executions (ordered base executions) (tableLines color base executions) where
  nodup := ((ordered_perm base executions).map _).nodup_iff.2 (nodup_entries executions)
  mem_iff row := by rw [(ordered_perm base executions).mem_iff, mem_entries_iff]
  sorted := pairwise_ordered base executions
  shows := by
    rw [tableLines, List.forall₂_map_right_iff, List.forall₂_same]
    exact fun row _ => ⟨_, _, _, rfl⟩

/-- The bytes are the lines of the first rows, and a beginning of the line of the next, which is the first that
cannot be padded. -/
def BreaksOff (base : Option Text) (executions : List Run.Execution) (rows : List Entry) (lines : List Bytes)
    (bytes : Bytes) : Prop :=
  ∃ before row behind line cut, rows = before ++ row :: behind ∧
    (∀ other ∈ before, Entry.IsPaddable base executions other) ∧ ¬row.IsPaddable base executions ∧
    lines[before.length]? = some line ∧ cut <+: line ∧ bytes = (lines.take before.length).flatten ++ cut

theorem breaksOff {base : Option Text} {executions : List Run.Execution} (h : ¬IsPaddable base executions)
    (color : Bool) : BreaksOff base executions (ordered base executions) (tableLines color base executions)
      (written color (caseTable base executions)) := by
  obtain ⟨before, row, behind, horder, hbefore, hrow⟩ := exists_not_isPaddable h
  let columns := Columns.ofRows (Row.sorted base executions)
  have hlines : tableLines color base executions = before.map (Entry.line color base columns)
      ++ row.line color base columns :: behind.map (Entry.line color base columns) := by
    rw [tableLines, horder, List.map_append, List.map_cons]
  have hcut : written color ((row.row base).pieces columns) <+: row.line color base columns := by
    rw [← render_pieces]
    exact written_prefix_render color _
  refine ⟨before, row, behind, _, _, horder, hbefore, hrow, ?_, hcut, ?_⟩
  · rw [hlines, List.getElem?_append_right (List.length_map _).le, List.length_map, Nat.sub_self]
    rfl
  · rw [written_caseTable_append horder hbefore hrow, hlines, List.take_left' (List.length_map _)]

/-- The lines are what is written of a table: all of them if all rows can be padded, and else a beginning. -/
def Prints (reporter : Reporter) (executions : List Run.Execution) (lines : List Bytes) : Prop :=
  (reporter.writeCaseTable executions .unbounded).1.taken <+: lines.flatten ∧
    (IsPaddable reporter.base executions →
      reporter.writeCaseTable executions .unbounded = (Sink.unbounded.push lines.flatten, .ok ()))

theorem prints_tableLines (reporter : Reporter) (executions : List Run.Execution) :
    Prints reporter executions (tableLines reporter.color reporter.base executions) := by
  have hplays := plays_writeCaseTable reporter executions .unbounded
  constructor
  · rw [hplays, ← render_caseTable]
    exact written_prefix_render reporter.color _
  · intro h
    rw [hplays, written_caseTable h, inRange_caseTable_iff.2 h]
    rfl

theorem getLast?_rowAt (color : Bool) (position : Text) (entry : Entry) (m n k : Nat) :
    (entry.rowAt color position m n k).getLast? = some 10 := by
  have hend : Utf8.encode "\n".toList = [10] := rfl
  rw [Entry.rowAt, Utf8.encode_append, hend, ← List.append_assoc, List.getLast?_concat]

theorem getLast?_stub (color : Bool) (base : Option Text) (entry : Entry) (atName : Bool) (m n : Nat) :
    (entry.stub color base atName m n).getLast? = some 32 := by
  have hgap : Utf8.encode "  ".toList = [32] ++ [32] := rfl
  cases atName with
  | false =>
    rw [Entry.stub, if_neg Bool.false_ne_true, List.append_nil, Utf8.encode_append, hgap, ← List.append_assoc,
      ← List.append_assoc, List.getLast?_concat]
  | true =>
    rw [Entry.stub, if_pos rfl, Utf8.encode_append _ "  ".toList, Utf8.encode_append _ "  ".toList, hgap,
      ← List.append_assoc, ← List.append_assoc, List.getLast?_concat]

/-- A table that breaks off is not that of all rows: it does not end with a line. -/
theorem Tabulates.flatten_ne {color : Bool} {base : Option Text} {executions : List Run.Execution}
    {rows : List Entry} {lines : List Bytes} (htable : Tabulates color base executions rows lines)
    (h : ¬IsPaddable base executions) : written color (caseTable base executions) ≠ lines.flatten := by
  obtain ⟨before, row, behind, horder, hbefore, hrow⟩ := exists_not_isPaddable h
  have hmem : row ∈ rows := by
    rw [htable.mem_iff, ← (tabulates color base executions).mem_iff, horder]
    exact List.mem_append_right _ List.mem_cons_self
  have hends : ∀ line ∈ lines, line.getLast? = some 10 := by
    intro line hline
    obtain ⟨i, hi, rfl⟩ := List.mem_iff_getElem.1 hline
    obtain ⟨m, n, k, hshows⟩ := htable.shows.get (htable.shows.length_eq ▸ hi) hi
    rw [List.get_eq_getElem] at hshows
    rw [hshows, getLast?_rowAt]
  rcases List.eq_nil_or_concat lines with rfl | ⟨init, last, rfl⟩
  · have hempty := List.eq_nil_of_length_eq_zero htable.shows.length_eq
    rw [hempty] at hmem
    exact absurd hmem List.not_mem_nil
  · have hlast : last.getLast? = some 10 := hends last (by simp)
    intro heq
    have hboth := congrArg List.getLast? heq
    rw [written_caseTable_append horder hbefore hrow, written_pieces hrow, List.getLast?_append, getLast?_stub,
      List.concat_eq_append, List.flatten_append, List.flatten_singleton, List.getLast?_append, hlast] at hboth
    exact absurd (Option.some.inj hboth) (by decide)

/-- **The case table loses and invents nothing** that can be padded.  Its lines are the rows of the cases of the run,
each with the data of its own case, in the order of status, location and reporting.  If all can be padded, all lines
are written; otherwise the program crashes in the first row that cannot, and just the lines before it and a beginning
of its own are written. -/
theorem caseTable_rows (reporter : Reporter) (executions : List Run.Execution) :
    ∃ rows lines, Tabulates reporter.color reporter.base executions rows lines ∧
      (IsPaddable reporter.base executions →
        (reporter.writeCaseTable executions .unbounded).1.taken = lines.flatten ∧
        (reporter.writeCaseTable executions .unbounded).2 = .ok ()) ∧
      (¬IsPaddable reporter.base executions →
        BreaksOff reporter.base executions rows lines (reporter.writeCaseTable executions .unbounded).1.taken ∧
        (reporter.writeCaseTable executions .unbounded).2 = .error .crashed) := by
  obtain ⟨htaken, hresult⟩ := (plays_writeCaseTable reporter executions).promptly.unbounded
  simp only [inRange_caseTable_iff] at hresult
  refine ⟨_, _, tabulates reporter.color reporter.base executions, fun h => ?_, fun h => ?_⟩
  · rw [htaken, hresult, if_pos h]
    exact ⟨written_caseTable h reporter.color, rfl⟩
  · rw [htaken, hresult, if_neg h]
    exact ⟨breaksOff h reporter.color, rfl⟩

/-- **Not every case has a row:** where a name lacks more than 65535 columns, the table is not that of all rows, with
whatever spaces. -/
theorem not_tabulates_sprawling :
    ¬∃ rows lines, Tabulates false none [sprawling []] rows lines ∧
      (Reporter.writeCaseTable { color := false, base := none } [sprawling []] .unbounded).1.taken
        = lines.flatten := by
  rintro ⟨rows, lines, htable, htaken⟩
  refine htable.flatten_ne (not_isPaddable_sprawling none []) ?_
  rw [← htaken, (plays_writeCaseTable { color := false, base := none } [sprawling []]).promptly.unbounded.1]

end Report
end TestBench
