/-
# The summary line

A blank line, and one line with the counts of the run:

    Summary [1.50s] 3 binaries run, 2 cases: 1 passed, 1 failed, 0 ignored, 1 binary terminated

The elapsed time is left out where it is not known, and so are the binaries that were terminated or
ended in an unknown way where there are none.
-/

import TestBench.Duration.Elapsed
import TestBench.Report.Stats
import TestBench.Report.Writing
import TestBench.Text.Plural

namespace TestBench
namespace Report

/-- A count and, behind a space, what is counted. -/
def counted (count : Nat) (noun : Piece) : List Piece :=
  [.styled .strong (Decimal.write count), .text " ".toList, noun]

/-- What there always is to count: binaries, and cases by their status. -/
def countPieces (stats : Stats) : List Piece :=
  .text " ".toList :: counted stats.binaries (.text (Plural.binaries stats.binaries ++ " run, ".toList))
    ++ counted stats.cases (.text (Plural.cases stats.cases ++ ": ".toList))
    ++ counted stats.passed (.styled .pass "passed".toList)
    ++ .text ", ".toList :: counted stats.failed (.styled .fail "failed".toList)
    ++ .text ", ".toList :: counted stats.ignored (.styled .ignore "ignored".toList)

/-- The elapsed time in brackets. -/
def elapsedPieces : Option Duration → List Piece
  | none => []
  | some elapsed => [.text (" [".toList ++ elapsed.elapsedText ++ "]".toList)]

/-- The binaries that were terminated, if there are any. -/
def terminatedPieces (stats : Stats) : List Piece :=
  if stats.terminated = 0 then []
  else .text ", ".toList
    :: counted stats.terminated (.text (Plural.binaries stats.terminated ++ " ".toList))
    ++ [.styled .fail "terminated".toList]

/-- The binaries that ended in an unknown way, if there are any. -/
def unknownPieces (stats : Stats) : List Piece :=
  if stats.unknown = 0 then []
  else .text ", ".toList
    :: counted stats.unknown
      (.text (Plural.binaries stats.unknown ++ " with unknown status".toList))

/-- The summary of a run is written. -/
def Reporter.writeSummary (reporter : Reporter) (stats : Stats) (elapsed : Option Duration) :
    Writing Unit := do
  reporter.write [.lineEnd]
  reporter.write [.styled .strong "Summary".toList]
  reporter.write (elapsedPieces elapsed)
  reporter.write (countPieces stats)
  reporter.write (terminatedPieces stats)
  reporter.write (unknownPieces stats)
  reporter.write [.lineEnd]

end Report
end TestBench
