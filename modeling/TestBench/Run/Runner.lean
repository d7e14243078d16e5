/-
# Running test binaries

Every binary is started with the variables for the sanitizers, watched until it has ended, and judged.
A binary that cannot be started is an execution too; no failure of one touches another.

What the system makes of a binary is left to a `Supervisor`: a binary may fail to start, may end in any
way or not be waited for, and what happens to it may come in any order that comes to an end.
-/

import TestBench.Host
import TestBench.Launch
import TestBench.Run.Capture
import TestBench.Run.Pool

namespace TestBench
namespace Run

open Program

/-- What happens to a binary from its start until nothing more of it is awaited. -/
structure Course (limit : Option Duration) where
  occurrences : List Occurrence
  /-- How long it takes. -/
  nanoseconds : Nat
  finishes : ((Watch.start limit).run occurrences).outcome?.isSome = true

/-- What was captured of the binary. -/
def Course.outcome {limit : Option Duration} (course : Course limit) : Outcome :=
  ((Watch.start limit).run course.occurrences).outcome?.get course.finishes

/-- What could not be read of the binary. -/
def Course.errors {limit : Option Duration} (course : Course limit) : List ReadError :=
  ((Watch.start limit).run course.occurrences).errors

/-- What starts binaries with variables and a limit, and sees them through. -/
abbrev Supervisor := Host → Block → (limit : Option Duration) → (path : Text) →
  Except SystemError (Course limit)

namespace Supervisor

/-- How long a program of this course runs under a limit. -/
def timeWithin (limit : Option Duration) (performance : Performance) : Nat :=
  match limit with
  | some limit => min limit.totalNanos performance.nanoseconds
  | none => performance.nanoseconds

/-- Binaries are started where they are, and nothing disturbs them but the limit. -/
def undisturbed : Supervisor := fun host env limit path =>
  match Launch.start host.tree host.here env path [] with
  | .error err => .error err
  | .ok (performance, _) =>
    .ok { occurrences := Occurrence.ofPerformance performance limit
          nanoseconds := timeWithin limit performance
          finishes := Occurrence.isSome_outcome?_ofPerformance _ performance limit }

end Supervisor

/-- How test binaries are run. -/
structure Runner where
  /-- How many are run at once; at least one is. -/
  threads : Nat
  /-- How long each may run. -/
  limit : Option Duration
  /-- The variables that configure sanitizers. -/
  environment : Environment
  supervisor : Supervisor := .undisturbed
  /-- Which of the running binaries ends next, as often as one does. -/
  order : Nat → Nat := fun _ => 0

/-- An execution with what was logged and how long it took. -/
structure Trial where
  execution : Execution
  events : List Log.Event
  nanoseconds : Nat

namespace Runner

/-- The remark on a binary that could not be started. -/
def startRemark (err : SystemError) : Text := "failed to spawn: ".toList ++ err.message

/-- The run of a binary that could not be started. -/
def notStarted (path : Text) (err : SystemError) : Trial :=
  { execution := .notStarted path (startRemark err)
    events := [{ level := .warn, target := .runner
                 message := "failed to spawn `".toList ++ path ++ "`: ".toList ++ err.message }]
    nanoseconds := 0 }

/-- The warning of an output that was not read to its end. -/
def readWarning (path : Text) (err : ReadError) : Log.Event :=
  { level := .warn, target := .runner, message := Text.quoted path ++ ": ".toList ++ err.message }

/-- What comes of starting a binary. -/
def attempt (runner : Runner) (host : Host) (path : Text) : Except SystemError (Course runner.limit) :=
  runner.supervisor host (.forTest host.environment runner.environment) runner.limit path

/-- One binary run. -/
def runOne (runner : Runner) (host : Host) (path : Text) : Trial :=
  match runner.attempt host path with
  | .error err => notStarted path err
  | .ok course =>
    let (execution, events) := course.outcome.judge path
    { execution, events := course.errors.map (readWarning path) ++ events
      nanoseconds := course.nanoseconds }

/-- Binaries run, each at its place. -/
def execute (runner : Runner) (host : Host) (paths : List Text) : List Trial :=
  (Pool.runAll runner.threads (runner.runOne host) runner.order paths).getD []

/-- How long the runs took in all. -/
def elapsed (runner : Runner) (trials : List Trial) : Duration :=
  let total := Pool.makespan runner.threads (trials.map Trial.nanoseconds)
  { seconds := total / Duration.nanosPerSecond, nanoseconds := total % Duration.nanosPerSecond }

end Runner
end Run
end TestBench
