/-
# Counts

What a run amounts to in numbers: how many binaries, how many of them ended badly, and how many cases
passed, failed and were ignored.
-/

import TestBench.Run.Execution

namespace TestBench
namespace Report

/-- The counts of a run. -/
structure Stats where
  binaries : Nat
  /-- Binaries of status `terminated`. -/
  terminated : Nat
  /-- Binaries of status `unknown`. -/
  unknown : Nat
  /-- Binaries that wrote to standard error. -/
  withSanitizerOutput : Nat
  passed : Nat
  failed : Nat
  ignored : Nat
  deriving DecidableEq, Repr

namespace Stats

/-- The counts of nothing. -/
def zero : Stats :=
  { binaries := 0, terminated := 0, unknown := 0, withSanitizerOutput := 0, passed := 0, failed := 0
    ignored := 0 }

/-- The counts of two runs together. -/
def add (s t : Stats) : Stats :=
  { binaries := s.binaries + t.binaries
    terminated := s.terminated + t.terminated
    unknown := s.unknown + t.unknown
    withSanitizerOutput := s.withSanitizerOutput + t.withSanitizerOutput
    passed := s.passed + t.passed
    failed := s.failed + t.failed
    ignored := s.ignored + t.ignored }

/-- One more case of the given status. -/
def countCase (s : Stats) (case : Protocol.Case) : Stats :=
  match case.status with
  | .ignore => { s with ignored := s.ignored + 1 }
  | .pass => { s with passed := s.passed + 1 }
  | .fail => { s with failed := s.failed + 1 }

/-- One more execution. -/
def count (s : Stats) (execution : Run.Execution) : Stats :=
  let s := { s with binaries := s.binaries + 1 }
  let s := match execution.status with
    | .ok => s
    | .terminated => { s with terminated := s.terminated + 1 }
    | .unknown => { s with unknown := s.unknown + 1 }
  let s :=
    if execution.stderr = [] then s
    else { s with withSanitizerOutput := s.withSanitizerOutput + 1 }
  execution.cases.foldl countCase s

/-- The counts of a run. -/
def ofExecutions (executions : List Run.Execution) : Stats := executions.foldl count zero

/-- All cases together. -/
def cases (s : Stats) : Nat := s.passed + s.failed + s.ignored

/-- Some case failed or some binary did not end well. -/
def hasFailures (s : Stats) : Bool := 0 < s.failed || 0 < s.terminated || 0 < s.unknown

end Stats
end Report
end TestBench
