/-
# Judging a test binary that has ended

An outcome is what was captured of a test binary when it has ended: how it ended, if that was
learned, the bytes of its two outputs, and the limit if it ran into one.  Three things are looked at in
turn, and each may set the status and leave a remark.

| in turn | status | remark |
| --- | --- | --- |
| the end is success | `ok` | |
| the end is anything else | `terminated` | |
| the end was not learned | `unknown` | why |
| a limit ran out, and the status is not `ok` | `terminated` | the limit, in place of the remark |
| standard output is not text | `terminated` | how far it is text, behind the remark |
-/

import TestBench.Duration.Printer
import TestBench.Run.Execution

namespace TestBench
namespace Run

/-- The end of a test binary that was not learned. -/
structure WaitError where
  /-- What the system said. -/
  cause : Text
  deriving DecidableEq, Repr

/-- What is said of an end that was not learned. -/
def WaitError.message (err : WaitError) : Text :=
  "error waiting for child process to exit: ".toList ++ err.cause

/-- What was captured of a test binary. -/
structure Outcome where
  /-- How it ended. -/
  wait : Except WaitError Program.Exit
  stdout : Bytes
  stderr : Bytes
  /-- The limit, if it ran out before the end. -/
  expired : Option Duration

/-- A status and the remark on it. -/
structure Verdict where
  status : Status
  remark : Option Text
  deriving DecidableEq, Repr

namespace Verdict

/-- The verdict on how a binary ended. -/
def ofWait : Except WaitError Program.Exit → Verdict
  | .ok exit => { status := if exit.isSuccess then .ok else .terminated, remark := none }
  | .error err => { status := .unknown, remark := some err.message }

/-- What is said of a limit that ran out. -/
def expiryRemark (limit : Duration) : Text := "timed out after ".toList ++ limit.write

/-- The verdict after a limit ran out.  A binary that ended well all the same was not stopped. -/
def expire (limit : Duration) (verdict : Verdict) : Verdict :=
  if verdict.status = .ok then verdict
  else { status := .terminated, remark := some (expiryRemark limit) }

/-- The verdict after standard output turned out not to be text. -/
def reject (err : Protocol.DecodeError) (verdict : Verdict) : Verdict :=
  { status := .terminated
    remark := some (match verdict.remark with
      | some remark => remark ++ "; ".toList ++ err.message
      | none => err.message) }

end Verdict

namespace Outcome

/-- The verdict before standard output is looked at. -/
def verdict (outcome : Outcome) : Verdict :=
  match outcome.expired with
  | some limit => (Verdict.ofWait outcome.wait).expire limit
  | none => Verdict.ofWait outcome.wait

/-- The execution of the binary at `path` with this outcome, and what is logged while its cases are
read. -/
def judge (outcome : Outcome) (path : Text) : Execution × List Log.Event :=
  let started (verdict : Verdict) : Execution :=
    { path, sourceFile := none, status := verdict.status, exit := outcome.wait.toOption
      cases := [], stderr := outcome.stderr, diagnostic := verdict.remark }
  match Protocol.decodeOutput outcome.stdout with
  | .error err => (started (outcome.verdict.reject err), [])
  | .ok text =>
    let (cases, events) := Protocol.readCases text
    ({ started outcome.verdict with sourceFile := Protocol.firstLocation? text, cases }, events)

end Outcome
end Run
end TestBench
