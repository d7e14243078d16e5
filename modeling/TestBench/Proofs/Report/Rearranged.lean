/-
# The order of the executions does not show

Test binaries are found in whatever order directories list them.  What a report says of a run does not
depend on it.

| part | the same for two arrangements of the executions |
| --- | --- |
| counts, exit code, summary | always |
| case table | where no two executions with cases are shown under one location (`ShownApart`) |

The case table is sorted by status and location, and the sort keeps the order of rows that agree in both.
Under `ShownApart` such rows belong to one execution (`pairwise_numbered`), and among these the place of
the case decides, which no rearrangement changes.  So there is one sorted list (`mergeSort_eq_of_perm`),
and the columns, whose widths are read off the rows, are the same too.
-/

import TestBench.Cli.Dispatch
import TestBench.Proofs.Report.CaseTable
import TestBench.Proofs.Report.Stats
import TestBench.Proofs.Text.Utf8
import Mathlib

namespace TestBench
namespace Report

/-- **One sorted list.** A stable sort makes the same list of two arrangements if both keep a relation
that tells apart what the sort finds equal. -/
theorem mergeSort_eq_of_perm {α : Type} {s : α → α → Prop} {l l' : List α} (le : α → α → Bool)
    (htrans : ∀ a b c, le a b = true → le b c = true → le a c = true)
    (htotal : ∀ a b, (le a b || le b a) = true)
    (hties : ∀ a b, le a b = true → le b a = true → s a b → s b a → a = b)
    (hperm : l.Perm l') (h : l.Pairwise s) (h' : l'.Pairwise s) : l.mergeSort le = l'.mergeSort le := by
  have hsorted := pairwise_mergeSort_of_pairwise le htrans htotal h
  have hsorted' := pairwise_mergeSort_of_pairwise le htrans htotal h'
  have hsame : (l.mergeSort le).Perm (l'.mergeSort le) :=
    (List.mergeSort_perm l le).trans (hperm.trans (List.mergeSort_perm l' le).symm)
  refine List.Perm.eq_of_pairwise ?_ hsorted hsorted' hsame
  rintro a b - - ⟨hab, hs⟩ ⟨hba, hs'⟩
  exact hties a b hab hba (hs hba) (hs' hab)

/-- No two executions with cases are shown under one location. -/
def ShownApart (base : Option Text) (executions : List Run.Execution) : Prop :=
  ((executions.filter fun execution => execution.cases ≠ []).map (shownLocation base)).Nodup

instance (base : Option Text) (executions : List Run.Execution) :
    Decidable (ShownApart base executions) :=
  inferInstanceAs (Decidable (List.Nodup _))

theorem ShownApart.perm {base : Option Text} {executions executions' : List Run.Execution}
    (h : ShownApart base executions) (hperm : executions.Perm executions') :
    ShownApart base executions' :=
  (((hperm.filter _).map _).nodup_iff).1 h

/-- The rows of a run in the order of their reporting, each with the place of its case among those of its
execution. -/
def numbered (base : Option Text) (executions : List Run.Execution) : List (Row × Nat) :=
  executions.flatMap fun execution => (Row.ofExecution base execution).zipIdx

/-- One row has the lower place, if both show one location. -/
def ComesFirst (a b : Row × Nat) : Prop := a.1.location = b.1.location → a.2 < b.2

theorem map_fst_numbered (base : Option Text) (executions : List Run.Execution) :
    (numbered base executions).map Prod.fst = Row.reported base executions := by
  simp only [numbered, Row.reported, List.map_flatMap, List.zipIdx_map_fst]

/-- The rows of the case table, sorted with their places. -/
theorem sorted_eq_map_fst (base : Option Text) (executions : List Run.Execution) :
    Row.sorted base executions
      = ((numbered base executions).mergeSort fun a b => a.1.le b.1).map Prod.fst := by
  rw [Row.sorted, ← map_fst_numbered, List.map_mergeSort]
  exact fun a _ b _ => rfl

/-- A row shows the location of its execution, which has a case. -/
theorem location_of_mem_zipIdx {base : Option Text} {execution : Run.Execution} {a : Row × Nat}
    (h : a ∈ (Row.ofExecution base execution).zipIdx) :
    execution.cases ≠ [] ∧ a.1.location = shownLocation base execution := by
  have hrow : a.1 ∈ Row.ofExecution base execution := List.fst_mem_of_mem_zipIdx h
  obtain ⟨case, hcase, heq⟩ := List.mem_map.1 hrow
  exact ⟨List.ne_nil_of_mem hcase, by rw [← heq]⟩

/-- **Ties are within one execution,** and there the places tell the rows apart. -/
theorem pairwise_numbered {base : Option Text} {executions : List Run.Execution}
    (h : ShownApart base executions) : (numbered base executions).Pairwise ComesFirst := by
  rw [numbered, List.pairwise_flatMap]
  constructor
  · intro execution _
    refine (pairwise_zipIdx (Row.ofExecution base execution)).imp ?_
    intro a b hplace _
    exact hplace
  · rw [ShownApart, List.Nodup, List.pairwise_map, List.pairwise_filter] at h
    refine h.imp fun hapart a ha b hb hsame => ?_
    obtain ⟨hcases, hlocation⟩ := location_of_mem_zipIdx ha
    obtain ⟨hcases', hlocation'⟩ := location_of_mem_zipIdx hb
    exact absurd (hlocation.symm.trans (hsame.trans hlocation'))
      (hapart (decide_eq_true hcases) (decide_eq_true hcases'))

/-- Rows that the table finds equal show one location. -/
theorem Row.location_eq_of_le {a b : Row} (hab : a.le b = true) (hba : b.le a = true) :
    a.location = b.location := by
  rw [le_iff] at hab hba
  rcases hab with hlt | ⟨hrank, hkey⟩ <;> rcases hba with hlt' | ⟨hrank', hkey'⟩
  · omega
  · omega
  · omega
  · exact Utf8.encode_injective (List.le_antisymm hkey hkey')

/-- The rows of the case table do not depend on the order of the executions. -/
theorem sorted_eq_of_perm {base : Option Text} {executions executions' : List Run.Execution}
    (hperm : executions.Perm executions') (h : ShownApart base executions) :
    Row.sorted base executions = Row.sorted base executions' := by
  have hties : ∀ a b : Row × Nat, a.1.le b.1 = true → b.1.le a.1 = true → ComesFirst a b →
      ComesFirst b a → a = b := by
    intro a b hab hba hfirst hfirst'
    have hlocation := Row.location_eq_of_le hab hba
    exact absurd (hfirst hlocation) (Nat.lt_asymm (hfirst' hlocation.symm))
  have hnumbered : (numbered base executions).Perm (numbered base executions') := hperm.flatMap_right _
  rw [sorted_eq_map_fst, sorted_eq_map_fst, mergeSort_eq_of_perm (fun a b => a.1.le b.1)
    (fun a b c => Row.le_trans a.1 b.1 c.1) (fun a b => Row.le_total a.1 b.1) hties
    hnumbered (pairwise_numbered h) (pairwise_numbered (h.perm hperm))]

/-- The same rows are written. -/
theorem writeCaseTable_eq_of_perm {reporter : Reporter} {executions executions' : List Run.Execution}
    (hperm : executions.Perm executions') (h : ShownApart reporter.base executions) :
    reporter.writeCaseTable executions = reporter.writeCaseTable executions' := by
  rw [Reporter.writeCaseTable, Reporter.writeCaseTable, sorted_eq_of_perm hperm h]

/-- The counts do not depend on the order of the executions. -/
theorem Stats.ofExecutions_eq_of_perm {executions executions' : List Run.Execution}
    (hperm : executions.Perm executions') : ofExecutions executions = ofExecutions executions' := by
  have hcases := hperm.flatMap_right Run.Execution.cases
  simp only [ofExecutions_eq, casesOf, hperm.length_eq, hperm.countP_eq, hcases.countP_eq]

/-- **The order of the executions does not show.** Of two arrangements of the same executions the counts
are the same, and with them what is a failure, the result of the command and the summary; and the case
tables are the same, whatever they are written to, if no two executions with cases are shown under one
location. -/
theorem rearranged_eq {executions executions' : List Run.Execution}
    (hperm : executions.Perm executions') :
    (∀ reporter : Reporter, ShownApart reporter.base executions → ∀ sink,
      reporter.writeCaseTable executions sink = reporter.writeCaseTable executions' sink) ∧
    Stats.ofExecutions executions = Stats.ofExecutions executions' ∧
    (Stats.ofExecutions executions).hasFailures = (Stats.ofExecutions executions').hasFailures ∧
    (∀ bench : Cli.Bench, bench.resultOf (Stats.ofExecutions executions).hasFailures
      = bench.resultOf (Stats.ofExecutions executions').hasFailures) ∧
    ∀ (reporter : Reporter) (elapsed : Option Duration) (sink : Sink),
      reporter.writeSummary (Stats.ofExecutions executions) elapsed sink
        = reporter.writeSummary (Stats.ofExecutions executions') elapsed sink := by
  have hstats := Stats.ofExecutions_eq_of_perm hperm
  refine ⟨fun reporter happart sink => ?_, hstats, ?_, fun bench => ?_, fun reporter elapsed sink => ?_⟩
  · rw [writeCaseTable_eq_of_perm hperm happart]
  all_goals rw [hstats]

/-- A binary with two cases that the table finds equal, one with a case of the same status, and one
without cases that is shown under the location of the first. -/
def tied : List Run.Execution :=
  [{ path := "b/a".toList, sourceFile := some "a.c".toList, status := .ok, exit := some (.ofCode 0)
     cases := [{ line := 9, name := "x".toList, status := .pass, message := none, notes := [] },
       { line := 2, name := "y".toList, status := .pass, message := none, notes := [] }]
     stderr := [], diagnostic := none },
    { path := "b/c".toList, sourceFile := some "c.c".toList, status := .ok, exit := some (.ofCode 0)
      cases := [{ line := 1, name := "z".toList, status := .pass, message := none, notes := [] }]
      stderr := [], diagnostic := none },
    .notStarted "a.c".toList "no such file".toList]

/-- The table and the counts are the same from the last to the first. -/
theorem rearranged_eq_tied : ShownApart none tied ∧ tied.Perm tied.reverse ∧
    (Reporter.writeCaseTable { color := false, base := none } tied.reverse .unbounded).1.taken
      = Utf8.encode "PASS  a.c:9  x\nPASS  a.c:2  y\nPASS  c.c:1  z\n".toList ∧
    (Stats.ofExecutions tied.reverse).hasFailures = true := by
  have hperm : tied.Perm tied.reverse := tied.reverse_perm.symm
  have happart : ShownApart none tied := by decide
  obtain ⟨htable, -, hfailures, -⟩ := rearranged_eq hperm
  refine ⟨happart, hperm, ?_, ?_⟩
  · rw [← htable { color := false, base := none } happart]
    cbv
  · rw [← hfailures]
    rfl

end Report
end TestBench
