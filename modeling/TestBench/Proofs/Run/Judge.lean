/-
# When a test binary counts against a run

The verdict on a binary is put together from its start, its end, the limit and its output.  In all it
comes to this: an execution counts against the run iff the binary could not be started, did not end with
success, printed what is no text, or printed a line that reports a failed check.

| definition | what it is |
| --- | --- |
| `Outcome.EndedWell` | the end was learned and is success |
| `Outcome.Faulty` | what was captured counts against the run |
| `Runner.Fails` | the binary could not be started, or what was captured of it counts against the run |

`Runner.hasFailures_execute_iff` says so of all binaries of a run, in whatever order they end.
-/

import TestBench.Run.Runner
import TestBench.Proofs.Protocol.Grouping
import TestBench.Proofs.Report.Stats
import TestBench.Proofs.Run.Pool
import TestBench.Proofs.Text.Utf8

namespace TestBench
namespace Run

open Program

/-- The end of the binary was learned, and is success. -/
def Outcome.EndedWell (outcome : Outcome) : Prop :=
  ∃ exit, outcome.wait = .ok exit ∧ exit.isSuccess = true

/-- What was captured of a binary counts against the run. -/
inductive Outcome.Faulty (outcome : Outcome) : Prop
  | ended (h : ¬outcome.EndedWell)
  | notText (h : ∀ text, Utf8.encode text ≠ outcome.stdout)
  | reported {text : Text} (h : Utf8.encode text = outcome.stdout)
      (hfailure : Protocol.ReportsFailure text)

/-- The binary could not be started, or what was captured of it counts against the run. -/
inductive Runner.Fails (runner : Runner) (host : Host) (path : Text) : Prop
  | notStarted {err : SystemError} (h : runner.attempt host path = .error err)
  | faulty {course : Course runner.limit} (h : runner.attempt host path = .ok course)
      (hfaulty : course.outcome.Faulty)

/-- The execution did not end well, or has a failed case. -/
def Execution.IsBad (execution : Execution) : Prop :=
  execution.status ≠ .ok ∨ ∃ case ∈ execution.cases, case.status = .fail

namespace Outcome

/-- A limit that ran out does not turn an end for the better. -/
theorem status_verdict_eq_ok_iff (outcome : Outcome) :
    outcome.verdict.status = .ok ↔ outcome.EndedWell := by
  have hwait : (Verdict.ofWait outcome.wait).status = .ok ↔ outcome.EndedWell := by
    rw [EndedWell]
    cases hwait : outcome.wait with
    | error err => simp [Verdict.ofWait]
    | ok exit => cases hsuccess : exit.isSuccess <;> simp [Verdict.ofWait, hsuccess]
  rw [verdict, ← hwait]
  cases outcome.expired with
  | none => rfl
  | some limit =>
    simp only [Verdict.expire]
    split
    next hok => rfl
    next hnot => simp [hnot]

/-- **The verdict.** -/
theorem isBad_judge_iff (outcome : Outcome) (path : Text) :
    (outcome.judge path).1.IsBad ↔ outcome.Faulty := by
  cases hdecode : Protocol.decodeOutput outcome.stdout with
  | error err =>
    have hbad : (outcome.judge path).1.status = .terminated := by
      rw [judge, hdecode]
      rfl
    refine ⟨fun _ => .notText fun text htext => ?_, fun _ => .inl (by rw [hbad]; decide)⟩
    rw [Protocol.decodeOutput_eq_ok_iff.2 htext] at hdecode
    simp at hdecode
  | ok text =>
    have htext := Protocol.decodeOutput_eq_ok_iff.1 hdecode
    have hstatus : (outcome.judge path).1.status = outcome.verdict.status := by
      rw [judge, hdecode]
    have hcases : (outcome.judge path).1.cases = Protocol.cases text := by
      rw [judge, hdecode]
      rfl
    rw [Execution.IsBad, hstatus, hcases, Ne, status_verdict_eq_ok_iff,
      Protocol.exists_failed_case_iff]
    constructor
    · rintro (hend | hfailure)
      · exact .ended hend
      · exact .reported htext hfailure
    · rintro (hend | hnot | ⟨hother, hfailure⟩)
      · exact .inl hend
      · exact absurd htext (hnot text)
      · rw [← Utf8.encode_injective (hother.trans htext.symm)]
        exact .inr hfailure

end Outcome

namespace Runner

theorem isBad_runOne_iff (runner : Runner) (host : Host) (path : Text) :
    (runner.runOne host path).execution.IsBad ↔ runner.Fails host path := by
  rw [runOne]
  cases hattempt : runner.attempt host path with
  | error err => exact ⟨fun _ => .notStarted hattempt, fun _ => .inl nofun⟩
  | ok course =>
    dsimp only
    rw [Outcome.isBad_judge_iff]
    constructor
    · exact fun hfaulty => .faulty hattempt hfaulty
    · rintro (herror | ⟨hother, hfaulty⟩)
      · rw [hattempt] at herror
        simp at herror
      · rw [hattempt, Except.ok.injEq] at hother
        rw [hother]
        exact hfaulty

/-- Every binary is run once, and the trials come in the order of the paths. -/
theorem execute_eq (runner : Runner) (host : Host) (paths : List Text) :
    runner.execute host paths = paths.map (runner.runOne host) := by
  rw [execute, Pool.runAll_eq, Option.getD_some]

/-- **A run has failures iff one of its binaries fails.** -/
theorem hasFailures_execute_iff (runner : Runner) (host : Host) (paths : List Text) :
    (Report.Stats.ofExecutions ((runner.execute host paths).map Trial.execution)).hasFailures = true
      ↔ ∃ path ∈ paths, runner.Fails host path := by
  rw [Report.Stats.hasFailures_ofExecutions_iff, execute_eq, List.map_map]
  simp only [List.mem_map, Function.comp_apply]
  constructor
  · rintro ⟨_, ⟨path, hpath, rfl⟩, hbad⟩
    exact ⟨path, hpath, (isBad_runOne_iff runner host path).1 hbad⟩
  · rintro ⟨path, hpath, hfails⟩
    exact ⟨_, ⟨path, hpath, rfl⟩, (isBad_runOne_iff runner host path).2 hfails⟩

end Runner
end Run
end TestBench
