/-
# Executions

An execution is what is known of one test binary after it was run: how it ended, the cases it
reported on standard output, what it wrote to standard error (where sanitizer runtimes report), and
a remark of the runner, such as a timeout.

| status | meaning |
| --- | --- |
| `ok` | exit code 0, and the output is text |
| `terminated` | any other end, a timeout, output that is not text, or no start at all |
| `unknown` | the end could not be learned |
-/

import TestBench.Program.Exit
import TestBench.Protocol.Case

namespace TestBench
namespace Run

/-- How a test binary fared as a process. -/
inductive Status where
  | ok
  | terminated
  | unknown
  deriving DecidableEq, Repr

/-- One test binary after it was run. -/
structure Execution where
  /-- The path that it was started from. -/
  path : Text
  /-- The location of the first line of the protocol that it printed. -/
  sourceFile : Option Text
  status : Status
  /-- How it ended, if it was started and waited for. -/
  exit : Option Program.Exit
  /-- Its cases, in the order they were reported. -/
  cases : List Protocol.Case
  /-- Everything that it wrote to standard error. -/
  stderr : Bytes
  /-- A remark of the runner. -/
  diagnostic : Option Text
  deriving DecidableEq, Repr

namespace Execution

/-- The execution ended well. -/
def isOk (execution : Execution) : Bool := execution.status = .ok

/-- The name under which the execution is shown: its source file, or its path. -/
def location (execution : Execution) : Text := execution.sourceFile.getD execution.path

/-- Why the execution did not end well; nothing if it did and there is no remark. -/
def outcome? (execution : Execution) : Option Text :=
  match execution.diagnostic with
  | some diagnostic => some diagnostic
  | none =>
    match execution.status, execution.exit with
    | .ok, _ => none
    | _, some exit => some exit.describe
    | _, none => some "outcome unknown".toList

/-- A binary that could not be started. -/
def notStarted (path diagnostic : Text) : Execution :=
  { path, sourceFile := none, status := .terminated, exit := none, cases := [], stderr := []
    diagnostic := some diagnostic }

/-- An execution that did not end well has an outcome to show. -/
theorem isSome_outcome?_of_not_isOk {execution : Execution} (h : execution.isOk = false) :
    execution.outcome?.isSome = true := by
  unfold outcome?
  split
  · rfl
  · split
    · next heq => simp [isOk, heq] at h
    · rfl
    · rfl

end Execution
end Run
end TestBench
