/-
# What the counts count

The counts of a run are tallied in one pass over the executions.  Each of them is the number of
executions, or of cases, of one kind (`ofExecutions_eq`), so that a run has failures exactly if one of
its executions did not end well or has a failed case (`hasFailures_ofExecutions_iff`).
-/

import TestBench.Report.Stats
import Mathlib.Data.List.Basic

namespace TestBench
namespace Report
namespace Stats

open Run

/-- The number of cases of a status. -/
def casesOf (status : Protocol.Status) (cases : List Protocol.Case) : Nat :=
  cases.countP fun case => case.status = status

theorem foldl_countCase (cases : List Protocol.Case) (s : Stats) :
    cases.foldl countCase s = { s with
      passed := s.passed + casesOf .pass cases
      failed := s.failed + casesOf .fail cases
      ignored := s.ignored + casesOf .ignore cases } := by
  induction cases generalizing s with
  | nil => rfl
  | cons case cases ih =>
    rw [List.foldl_cons, ih]
    cases hstatus : case.status with
    | ignore | pass | fail =>
      simp [countCase, casesOf, hstatus]
      omega

/-- One more execution adds to each count what it has of the kind. -/
theorem count_eq (s : Stats) (execution : Execution) :
    s.count execution =
      { binaries := s.binaries + 1
        terminated := s.terminated + if execution.status = .terminated then 1 else 0
        unknown := s.unknown + if execution.status = .unknown then 1 else 0
        withSanitizerOutput := s.withSanitizerOutput + if execution.stderr ≠ [] then 1 else 0
        passed := s.passed + casesOf .pass execution.cases
        failed := s.failed + casesOf .fail execution.cases
        ignored := s.ignored + casesOf .ignore execution.cases } := by
  rw [count, foldl_countCase]
  cases hstatus : execution.status <;> by_cases hstderr : execution.stderr = [] <;> simp [hstderr]

theorem foldl_count (executions : List Execution) (s : Stats) :
    executions.foldl count s =
      { binaries := s.binaries + executions.length
        terminated := s.terminated + executions.countP fun e => e.status = .terminated
        unknown := s.unknown + executions.countP fun e => e.status = .unknown
        withSanitizerOutput := s.withSanitizerOutput + executions.countP fun e => e.stderr ≠ []
        passed := s.passed + casesOf .pass (executions.flatMap Execution.cases)
        failed := s.failed + casesOf .fail (executions.flatMap Execution.cases)
        ignored := s.ignored + casesOf .ignore (executions.flatMap Execution.cases) } := by
  induction executions generalizing s with
  | nil => simp [casesOf]
  | cons execution executions ih =>
    rw [List.foldl_cons, ih, count_eq]
    simp [casesOf, List.countP_cons, Nat.add_assoc, Nat.add_comm, Nat.add_left_comm]

/-- **Each count is the number of executions or cases of its kind.** -/
theorem ofExecutions_eq (executions : List Execution) :
    ofExecutions executions =
      { binaries := executions.length
        terminated := executions.countP fun e => e.status = .terminated
        unknown := executions.countP fun e => e.status = .unknown
        withSanitizerOutput := executions.countP fun e => e.stderr ≠ []
        passed := casesOf .pass (executions.flatMap Execution.cases)
        failed := casesOf .fail (executions.flatMap Execution.cases)
        ignored := casesOf .ignore (executions.flatMap Execution.cases) } := by
  rw [ofExecutions, foldl_count]
  simp [zero]

/-- **A run has failures** iff an execution did not end well or has a failed case. -/
theorem hasFailures_ofExecutions_iff {executions : List Execution} :
    (ofExecutions executions).hasFailures = true ↔ ∃ execution ∈ executions,
      execution.status ≠ .ok ∨ ∃ case ∈ execution.cases, case.status = .fail := by
  simp only [hasFailures, Bool.or_eq_true, decide_eq_true_eq]
  simp only [ofExecutions_eq, casesOf, List.countP_pos_iff, List.mem_flatMap, decide_eq_true_eq]
  constructor
  · rintro ((⟨case, ⟨execution, hmem, hcase⟩, hfail⟩ | ⟨execution, hmem, hstatus⟩)
      | ⟨execution, hmem, hstatus⟩)
    · exact ⟨execution, hmem, .inr ⟨case, hcase, hfail⟩⟩
    · exact ⟨execution, hmem, .inl (by rw [hstatus]; decide)⟩
    · exact ⟨execution, hmem, .inl (by rw [hstatus]; decide)⟩
  · rintro ⟨execution, hmem, hstatus | ⟨case, hcase, hfail⟩⟩
    · cases hkind : execution.status with
      | ok => exact absurd hkind hstatus
      | terminated => exact .inl (.inr ⟨execution, hmem, hkind⟩)
      | unknown => exact .inr ⟨execution, hmem, hkind⟩
    · exact .inl (.inl ⟨case, ⟨execution, hmem, hcase⟩, hfail⟩)

end Stats
end Report
end TestBench
