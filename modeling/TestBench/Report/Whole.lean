/-
# The whole report

The case table, the two sections and the summary are written one after the other, and in the end the sink
is asked to pass everything on.  Whatever halts one of them ends the report.
-/

import TestBench.Report.Sections
import TestBench.Report.Summary

namespace TestBench
namespace Report

/-- The whole report on a run is written; the counts of the run are given back. -/
def Reporter.writeReport (reporter : Reporter) (executions : List Run.Execution) (elapsed : Duration) :
    Writing Stats := do
  let stats := Stats.ofExecutions executions
  reporter.writeCaseTable executions
  reporter.writeTerminated executions
  reporter.writeSanitizerOutput executions
  reporter.writeSummary stats (some elapsed)
  Writing.flush
  return stats

end Report
end TestBench
