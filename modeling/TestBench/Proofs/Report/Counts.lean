/-
# The summary agrees with the report

The counts of a run are tallied apart from what the report shows of it, and yet they are the numbers of what is there.

| count | what there is |
| --- | --- |
| `passed`, `failed`, `ignored` | rows of the case table of this status |
| `cases` | all rows |
| `terminated`, `unknown` | together, executions that did not end well; at least those that are drilled down |
| `withSanitizerOutput` | dumps |

A run has failures iff a row or an execution shows one, and the counts of two runs, one behind the other, add up
(`counts_agree`).
-/

import TestBench.Proofs.Report.Sections
import TestBench.Proofs.Report.Stats

namespace TestBench
namespace Report

variable (reporter : Reporter) (base : Option Text) (executions : List Run.Execution)

/-! ### Counts of cases -/

theorem map_case_entries : (entries executions).map Entry.case = executions.flatMap Run.Execution.cases := by
  have hof : ∀ execution : Run.Execution, (Row.ofExecution none execution).map Row.case = execution.cases := by
    intro execution
    rw [Row.ofExecution, List.map_map]
    exact List.map_id _
  calc
    (entries executions).map Entry.case = ((entries executions).map (Entry.row none)).map Row.case := by
      rw [List.map_map]
      rfl
    _ = executions.flatMap Run.Execution.cases := by
      rw [map_row_entries, Row.reported, List.map_flatMap]
      simp only [hof]

/-- The cases of a status are the rows of this status, in whatever order. -/
theorem casesOf_eq_countP_ordered (status : Protocol.Status) :
    Stats.casesOf status (executions.flatMap Run.Execution.cases)
      = (ordered base executions).countP fun row => row.case.status = status := by
  rw [(ordered_perm base executions).countP_eq, Stats.casesOf, ← map_case_entries, List.countP_map]
  rfl

/-- Every case has one of the three statuses. -/
theorem casesOf_add_casesOf (cases : List Protocol.Case) :
    Stats.casesOf .pass cases + Stats.casesOf .fail cases + Stats.casesOf .ignore cases = cases.length := by
  induction cases with
  | nil => rfl
  | cons case cases ih =>
    rw [List.length_cons, ← ih]
    cases hstatus : case.status with
    | ignore | pass | fail =>
      simp [Stats.casesOf, hstatus]
      omega

/-! ### Counts of executions -/

/-- Every execution that did not end well is of one of the two kinds. -/
theorem countP_terminated_add_countP_unknown :
    (executions.countP fun execution => execution.status = .terminated)
        + (executions.countP fun execution => execution.status = .unknown)
      = executions.countP fun execution => execution.status ≠ .ok := by
  induction executions with
  | nil => rfl
  | cons execution executions ih =>
    cases hstatus : execution.status with
    | ok | terminated | unknown =>
      simp [hstatus] at ih ⊢
      omega

namespace Stats

/-- Every row is counted once, by its status. -/
theorem cases_ofExecutions : (ofExecutions executions).cases = (entries executions).length := by
  have hentries := congrArg List.length (map_case_entries executions)
  rw [List.length_map] at hentries
  rw [hentries, ofExecutions_eq]
  exact casesOf_add_casesOf _

theorem terminated_add_unknown :
    (ofExecutions executions).terminated + (ofExecutions executions).unknown
      = executions.countP fun execution => execution.status ≠ .ok := by
  rw [ofExecutions_eq]
  exact countP_terminated_add_countP_unknown executions

/-- What is drilled down did not end well. -/
theorem length_filter_isDrilledDown_le :
    (executions.filter isDrilledDown).length
      ≤ (ofExecutions executions).terminated + (ofExecutions executions).unknown := by
  rw [terminated_add_unknown, ← List.countP_eq_length_filter]
  refine List.countP_mono_left fun execution _ h => ?_
  exact decide_eq_true ((isDrilledDown_iff execution).1 h).1

theorem hasFailures_iff (s : Stats) : s.hasFailures = true ↔ 0 < s.failed ∨ 0 < s.terminated + s.unknown := by
  rw [hasFailures, Bool.or_eq_true, Bool.or_eq_true, decide_eq_true_eq, decide_eq_true_eq, decide_eq_true_eq,
    Nat.add_pos_iff_pos_or_pos, or_assoc]

/-- **The counts of two runs add up.** -/
theorem ofExecutions_append (others : List Run.Execution) :
    ofExecutions (executions ++ others) = (ofExecutions executions).add (ofExecutions others) := by
  simp only [ofExecutions_eq, add, casesOf, List.length_append, List.flatMap_append, List.countP_append]

end Stats

/-- **The summary agrees with the report.**  Of the rows of the case table, the drill-downs and the dumps that are
written: the cases are counted row by row and status by status; the executions that did not end well are the terminated
and the unknown ones, no more than all and no fewer than are drilled down; those with sanitizer output are the dumps.
There are failures iff a row shows a failed case or some execution did not end well, and the counts of two runs add
up. -/
theorem counts_agree (others : List Run.Execution) :
    ∃ (rows : List Entry) (lines drilled dumped : List Bytes) (stats : Stats),
      Tabulates reporter.color reporter.base executions rows lines ∧ Prints reporter executions lines ∧
      Lists reporter.color "Terminated tests:".toList IsDrilledDown (DrillsDown reporter.color reporter.base) executions
        drilled (reporter.writeTerminated executions .unbounded).1.taken ∧
      Lists reporter.color "Sanitizer output:".toList (fun execution => execution.stderr ≠ [])
        (Dumps reporter.color reporter.base) executions dumped
        (reporter.writeSanitizerOutput executions .unbounded).1.taken ∧
      Stats.ofExecutions executions = stats ∧
      stats.passed = (rows.countP fun row => row.case.status = .pass) ∧
      stats.failed = (rows.countP fun row => row.case.status = .fail) ∧
      stats.ignored = (rows.countP fun row => row.case.status = .ignore) ∧
      stats.cases = lines.length ∧
      stats.binaries = executions.length ∧
      stats.terminated + stats.unknown = (executions.countP fun execution => execution.status ≠ .ok) ∧
      stats.terminated + stats.unknown ≤ stats.binaries ∧
      drilled.length ≤ stats.terminated + stats.unknown ∧
      stats.withSanitizerOutput = dumped.length ∧
      (stats.hasFailures = true ↔ (∃ row ∈ rows, row.case.status = .fail) ∨
        ∃ execution ∈ executions, execution.status ≠ .ok) ∧
      Stats.ofExecutions (executions ++ others) = stats.add (Stats.ofExecutions others) := by
  have htable := tabulates reporter.color reporter.base executions
  have hlength := htable.shows.length_eq
  have hcounts := Stats.ofExecutions_eq executions
  have hfailed : (Stats.ofExecutions executions).failed
      = (ordered reporter.base executions).countP fun row => row.case.status = .fail := by
    rw [hcounts]
    exact casesOf_eq_countP_ordered reporter.base executions .fail
  have hended := Stats.terminated_add_unknown executions
  refine ⟨ordered reporter.base executions, _, _, _, Stats.ofExecutions executions, htable,
    prints_tableLines reporter executions, lists_terminatedSection reporter executions,
    lists_sanitizerSection reporter executions, rfl,
    ?_, hfailed, ?_, ?_, ?_, hended, ?_, ?_, ?_, ?_, Stats.ofExecutions_append executions others⟩
  · rw [hcounts]
    exact casesOf_eq_countP_ordered reporter.base executions .pass
  · rw [hcounts]
    exact casesOf_eq_countP_ordered reporter.base executions .ignore
  · rw [Stats.cases_ofExecutions, ← hlength, (ordered_perm reporter.base executions).length_eq]
  · rw [hcounts]
  · rw [hended, hcounts]
    exact List.countP_le_length
  · rw [List.length_map]
    exact Stats.length_filter_isDrilledDown_le executions
  · rw [hcounts, List.length_map, ← List.countP_eq_length_filter]
    rfl
  · rw [Stats.hasFailures_iff, hfailed, hended, List.countP_pos_iff, List.countP_pos_iff]
    simp only [decide_eq_true_eq]

end Report
end TestBench
