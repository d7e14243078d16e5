/-
# The verdict on a binary, and what is remarked

Three things that may go wrong are looked at one after the other, and each may overrule what was found
before.  What they come to is a table; standard output that is no text is an end of its own.

| the end | the limit | status | remark on the end |
| --- | --- | --- | --- |
| success | | `ok` | |
| no success | did not run out | `terminated` | |
| no success | ran out | `terminated` | the limit |
| not learned | did not run out | `unknown` | why |
| not learned | ran out | `terminated` | the limit |

If standard output is no text the status is `terminated` in every row, and a remark on that stands behind
the one on the end (`judge_exact`).  So an execution that ended well is one of which nothing is to be
said, and one that has a case has a source file.
-/

import TestBench.Proofs.Run.Judge
import Mathlib.Order.Bounds.Basic

namespace TestBench

namespace Protocol

/-- An output that reports a case has a first line that follows the protocol. -/
theorem exists_firstLocation?_of_cases {output : Text} (h : cases output ≠ []) :
    ∃ location, firstLocation? output = some location := by
  have hrecord : (Text.lines output).filterMap Line.parse? ≠ [] := by
    intro hnil
    rw [cases, readCases_eq, record_eq, hnil] at h
    exact h rfl
  rw [firstLocation?, ← List.head?_filterMap]
  cases hlines : (Text.lines output).filterMap Line.parse? with
  | nil => exact absurd hlines hrecord
  | cons first rest => exact ⟨first.location, rfl⟩

end Protocol

namespace Run

/-- Remarks as they are shown: behind each other, if there are any. -/
def joined? (remarks : List Text) : Option Text :=
  if remarks = [] then none else some (joinWith "; ".toList remarks)

namespace Execution

/-- Nothing is to be said of an execution iff it ended well and there is no remark. -/
theorem outcome?_eq_none_iff (execution : Execution) :
    execution.outcome? = none ↔ execution.status = .ok ∧ execution.diagnostic = none := by
  rw [outcome?]
  cases hdiagnostic : execution.diagnostic with
  | some diagnostic => simp
  | none =>
    cases hstatus : execution.status with
    | ok => simp
    | terminated => cases execution.exit <;> simp
    | unknown => cases execution.exit <;> simp

end Execution

namespace Outcome

/-- What is remarked on the end. -/
def endRemarks (outcome : Outcome) : List Text :=
  match outcome.wait, outcome.expired with
  | .ok exit, some limit => if exit.isSuccess then [] else [Verdict.expiryRemark limit]
  | .ok _, none => []
  | .error _, some limit => [Verdict.expiryRemark limit]
  | .error err, none => [err.message]

/-- What an execution says of standard output, and what is remarked on it: its cases and its first
location, or else how far it is text. -/
inductive Reading (stdout : Bytes) (execution : Execution) : List Text → Prop
  | text {text : Text} (h : Utf8.encode text = stdout)
      (hcases : execution.cases = Protocol.cases text)
      (hsource : execution.sourceFile = Protocol.firstLocation? text) : Reading stdout execution []
  | notText {length : Nat} (h : ¬Utf8.IsText stdout)
      (hlength : IsGreatest {m | m ≤ stdout.length ∧ Utf8.IsText (stdout.take m)} length)
      (hcases : execution.cases = []) (hsource : execution.sourceFile = none) :
      Reading stdout execution [({ validUpTo := length } : Protocol.DecodeError).message]

/-- The remark that is made before standard output is looked at. -/
theorem remark_verdict (outcome : Outcome) : outcome.verdict.remark = joined? outcome.endRemarks := by
  rw [verdict, endRemarks]
  cases hwait : outcome.wait with
  | error err =>
    cases outcome.expired with
    | none => rfl
    | some limit => rfl
  | ok exit =>
    cases outcome.expired with
    | none => rfl
    | some limit => cases hsuccess : exit.isSuccess <;> simp [Verdict.ofWait, Verdict.expire, hsuccess,
        joined?, joinWith]

theorem status_verdict_eq_unknown_iff (outcome : Outcome) :
    outcome.verdict.status = .unknown
      ↔ (∃ err, outcome.wait = .error err) ∧ outcome.expired = none := by
  rw [verdict]
  cases hwait : outcome.wait with
  | error err =>
    cases outcome.expired with
    | none => simp [Verdict.ofWait]
    | some limit => simp [Verdict.ofWait, Verdict.expire]
  | ok exit =>
    cases outcome.expired with
    | none => cases hsuccess : exit.isSuccess <;> simp [Verdict.ofWait, hsuccess]
    | some limit => cases hsuccess : exit.isSuccess <;> simp [Verdict.ofWait, Verdict.expire, hsuccess]

/-- A remark on an end that is not learned, or on one that is no success behind a limit that ran out. -/
theorem endRemarks_eq_nil_iff (outcome : Outcome) :
    outcome.endRemarks = [] ↔
      outcome.EndedWell ∨ outcome.expired = none ∧ ∃ exit, outcome.wait = .ok exit := by
  rw [endRemarks, EndedWell]
  cases hwait : outcome.wait with
  | error err => cases outcome.expired <;> simp
  | ok exit => cases outcome.expired <;> simp

/-- The remark on an end behind which standard output is rejected. -/
theorem remark_reject (err : Protocol.DecodeError) {verdict : Verdict} {remarks : List Text}
    (h : verdict.remark = joined? remarks) (hshort : remarks.length ≤ 1) :
    (verdict.reject err).remark = joined? (remarks ++ [err.message]) := by
  rw [Verdict.reject, h]
  match remarks, hshort with
  | [], _ => rfl
  | [remark], _ => simp [joined?, joinWith]

theorem length_endRemarks_le (outcome : Outcome) : outcome.endRemarks.length ≤ 1 := by
  rw [endRemarks]
  split
  · split <;> simp
  all_goals simp

/-- A binary whose standard output is text. -/
theorem judge_of_text {outcome : Outcome} {text : Text} (h : Utf8.encode text = outcome.stdout)
    (path : Text) :
    (outcome.judge path).1 =
      { path, sourceFile := Protocol.firstLocation? text, status := outcome.verdict.status
        exit := outcome.wait.toOption, cases := Protocol.cases text, stderr := outcome.stderr
        diagnostic := joined? outcome.endRemarks } := by
  rw [judge, Protocol.decodeOutput_eq_ok_iff.2 h, ← remark_verdict]
  rfl

/-- A binary whose standard output is no text. -/
theorem judge_of_not_isText {outcome : Outcome} (h : ¬Utf8.IsText outcome.stdout) (path : Text) :
    ∃ length, IsGreatest {m | m ≤ outcome.stdout.length ∧ Utf8.IsText (outcome.stdout.take m)} length ∧
      (outcome.judge path).1 =
        { path, sourceFile := none, status := .terminated, exit := outcome.wait.toOption, cases := []
          stderr := outcome.stderr
          diagnostic := joined? (outcome.endRemarks
            ++ [({ validUpTo := length } : Protocol.DecodeError).message]) } := by
  cases hdecode : Utf8.decode? outcome.stdout with
  | ok text => exact absurd ⟨text, Utf8.decode?_eq_ok_iff.1 hdecode⟩ h
  | error length =>
    have hremark := remark_reject { validUpTo := length } outcome.remark_verdict
      outcome.length_endRemarks_le
    refine ⟨length, (Utf8.decode?_eq_error hdecode).2, ?_⟩
    simp only [judge, Protocol.decodeOutput, hdecode]
    rw [hremark]
    rfl

section

variable (outcome : Outcome) (path : Text)

theorem status_judge_eq_ok_iff :
    (outcome.judge path).1.status = .ok ↔ outcome.EndedWell ∧ Utf8.IsText outcome.stdout := by
  by_cases htext : Utf8.IsText outcome.stdout
  · obtain ⟨text, hencode⟩ := htext
    rw [judge_of_text hencode]
    exact (status_verdict_eq_ok_iff outcome).trans (and_iff_left ⟨text, hencode⟩).symm
  · obtain ⟨length, -, hjudge⟩ := judge_of_not_isText htext path
    rw [hjudge]
    simp [htext]

theorem status_judge_eq_unknown_iff :
    (outcome.judge path).1.status = .unknown ↔
      (∃ err, outcome.wait = .error err) ∧ outcome.expired = none ∧ Utf8.IsText outcome.stdout := by
  by_cases htext : Utf8.IsText outcome.stdout
  · obtain ⟨text, hencode⟩ := htext
    rw [judge_of_text hencode, ← and_assoc]
    exact (status_verdict_eq_unknown_iff outcome).trans (and_iff_left ⟨text, hencode⟩).symm
  · obtain ⟨length, -, hjudge⟩ := judge_of_not_isText htext path
    rw [hjudge]
    simp [htext]

theorem reading_judge : ∃ remarks, Reading outcome.stdout (outcome.judge path).1 remarks ∧
    (outcome.judge path).1.diagnostic = joined? (outcome.endRemarks ++ remarks) := by
  by_cases htext : Utf8.IsText outcome.stdout
  · obtain ⟨text, hencode⟩ := htext
    rw [judge_of_text hencode]
    exact ⟨[], .text hencode rfl rfl, by rw [List.append_nil]⟩
  · obtain ⟨length, hlength, hjudge⟩ := judge_of_not_isText htext path
    rw [hjudge]
    exact ⟨_, .notText htext hlength rfl rfl, rfl⟩

/-- No remark is made iff there is none on the end, and standard output is text. -/
theorem diagnostic_judge_eq_none_iff :
    (outcome.judge path).1.diagnostic = none ↔ Utf8.IsText outcome.stdout ∧
      (outcome.EndedWell ∨ outcome.expired = none ∧ ∃ exit, outcome.wait = .ok exit) := by
  rw [← endRemarks_eq_nil_iff]
  by_cases htext : Utf8.IsText outcome.stdout
  · obtain ⟨text, hencode⟩ := htext
    rw [judge_of_text hencode, and_iff_right ⟨text, hencode⟩]
    simp [joined?]
  · obtain ⟨length, -, hjudge⟩ := judge_of_not_isText htext path
    rw [hjudge]
    simp [joined?, htext]

theorem stderr_judge : (outcome.judge path).1.stderr = outcome.stderr := by
  rw [judge]
  split <;> rfl

/-- Nothing is said of an outcome iff the status is `ok`. -/
theorem outcome?_judge_eq_none_iff :
    (outcome.judge path).1.outcome? = none ↔ (outcome.judge path).1.status = .ok := by
  rw [Execution.outcome?_eq_none_iff, and_iff_left_iff_imp, status_judge_eq_ok_iff,
    diagnostic_judge_eq_none_iff]
  exact fun hok => ⟨hok.2, .inl hok.1⟩

/-- The cases and the first location come from the same text. -/
theorem exists_sourceFile_judge (h : (outcome.judge path).1.cases ≠ []) :
    ∃ location, (outcome.judge path).1.sourceFile = some location := by
  obtain ⟨remarks, hreading, -⟩ := outcome.reading_judge path
  cases hreading with
  | text hencode hcases hsource =>
    rw [hsource]
    exact Protocol.exists_firstLocation?_of_cases (hcases ▸ h)
  | notText htext hlength hcases hsource => exact absurd hcases h

end

end Outcome

/-- What holds of every judged binary, and of one that could not be started, holds of every binary that
is run. -/
theorem Runner.forall_execute {runner : Runner} {host : Host} {paths : List Text}
    {P : Execution → Prop} (hjudge : ∀ (outcome : Outcome) path, P (outcome.judge path).1)
    (hnotStarted : ∀ path remark, P (.notStarted path remark)) :
    ∀ trial ∈ runner.execute host paths, P trial.execution := by
  intro trial htrial
  rw [execute_eq] at htrial
  obtain ⟨path, -, rfl⟩ := List.mem_map.1 htrial
  rw [runOne]
  split
  · exact hnotStarted path _
  next course hcourse => exact hjudge course.outcome path

namespace Outcome

/-- **The verdict is exact.** The status is `ok` iff the end is success and standard output is text;
`unknown` iff the end was not learned, no limit ran out and standard output is text; and `terminated`
otherwise.  The diagnostic is the remark on the end and the one on standard output, and is missing iff
there is neither.  Text gives its cases and its first location, anything else none; standard error is
kept.  So for every binary of a run, nothing is said of its outcome iff its status is `ok`, and one with
a case has a source file. -/
theorem judge_exact (outcome : Outcome) (path : Text) (runner : Runner) (host : Host)
    (paths : List Text) :
    ((outcome.judge path).1.status = .ok ↔ outcome.EndedWell ∧ Utf8.IsText outcome.stdout) ∧
    ((outcome.judge path).1.status = .unknown ↔
      (∃ err, outcome.wait = .error err) ∧ outcome.expired = none ∧ Utf8.IsText outcome.stdout) ∧
    ((outcome.judge path).1.status = .terminated ↔
      ¬(outcome.EndedWell ∧ Utf8.IsText outcome.stdout) ∧
      ¬((∃ err, outcome.wait = .error err) ∧ outcome.expired = none ∧ Utf8.IsText outcome.stdout)) ∧
    (∃ remarks, Reading outcome.stdout (outcome.judge path).1 remarks ∧
      (outcome.judge path).1.diagnostic = joined? (outcome.endRemarks ++ remarks)) ∧
    ((outcome.judge path).1.diagnostic = none ↔ Utf8.IsText outcome.stdout ∧
      (outcome.EndedWell ∨ outcome.expired = none ∧ ∃ exit, outcome.wait = .ok exit)) ∧
    (outcome.judge path).1.stderr = outcome.stderr ∧
    ∀ trial ∈ runner.execute host paths,
      (trial.execution.outcome? = none ↔ trial.execution.status = .ok) ∧
      (trial.execution.cases ≠ [] → ∃ location, trial.execution.sourceFile = some location) := by
  refine ⟨outcome.status_judge_eq_ok_iff path, outcome.status_judge_eq_unknown_iff path, ?_,
    outcome.reading_judge path, outcome.diagnostic_judge_eq_none_iff path, outcome.stderr_judge path, ?_⟩
  · rw [← outcome.status_judge_eq_ok_iff path, ← outcome.status_judge_eq_unknown_iff path]
    cases (outcome.judge path).1.status <;> simp
  · refine Runner.forall_execute (P := fun execution =>
      (execution.outcome? = none ↔ execution.status = .ok) ∧
        (execution.cases ≠ [] → ∃ location, execution.sourceFile = some location)) ?_ ?_
    · intro outcome path
      exact ⟨outcome.outcome?_judge_eq_none_iff path, outcome.exists_sourceFile_judge path⟩
    · intro path remark
      refine ⟨?_, fun hcases => absurd rfl hcases⟩
      simp [Execution.outcome?, Execution.notStarted]

/-- A binary that was killed when its limit ran out, and whose output is no text behind its first
line. -/
def killedWriting : Outcome :=
  { wait := .ok (.ofSignal 9)
    stdout := Utf8.encode "a.c:1:PASS:x\n".toList ++ [0xfe, 0xff]
    stderr := [], expired := some { seconds := 2, nanoseconds := 0 } }

/-- Both remarks are made, in their order; and of a binary that cannot be started something is said. -/
theorem judge_exact_killedWriting :
    (killedWriting.judge "a".toList).1.status = .terminated ∧
    (killedWriting.judge "a".toList).1.diagnostic = some
      "timed out after 2s; standard output is not valid UTF-8 (valid up to byte 13)".toList ∧
    ∃ trial ∈ ({ threads := 1, limit := none, environment := .empty
                 supervisor := fun _ _ _ _ => .error .notFound } : Runner).execute
        { tree := .empty, here := [], environment := .empty, processors := 1 } ["b".toList],
      trial.execution.outcome? ≠ none := by
  obtain ⟨-, -, hterminated, ⟨remarks, hreading, hdiagnostic⟩, -, -, hrun⟩ := judge_exact killedWriting
    "a".toList
    { threads := 1, limit := none, environment := .empty, supervisor := fun _ _ _ _ => .error .notFound }
    { tree := .empty, here := [], environment := .empty, processors := 1 } ["b".toList]
  obtain ⟨hnotText, hgreatest⟩ : ¬Utf8.IsText killedWriting.stdout ∧ _ :=
    Utf8.decode?_eq_error (n := 13) (by decide +kernel)
  refine ⟨hterminated.2 ⟨fun h => hnotText h.2, fun h => hnotText h.2.2⟩, ?_, ?_⟩
  · cases hreading with
    | text hencode => exact absurd ⟨_, hencode⟩ hnotText
    | notText _ hlength =>
      rw [hdiagnostic, hlength.unique hgreatest]
      decide +kernel
  · refine ⟨_, List.mem_singleton_self _, fun hnone => ?_⟩
    exact absurd ((hrun _ (List.mem_singleton_self _)).1.1 hnone) (by decide)

end Outcome
end Run
end TestBench
