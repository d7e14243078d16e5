/-
# Running all variants

The variants are taken one after the other: a banner is written, the variant is built, its binaries are
looked for, run, and reported.  A variant that cannot be built, or whose binaries cannot be looked for,
is skipped and leaves the others alone; a report that halts ends the session at once.

| step | if it fails |
| --- | --- |
| the banner, passed on | the session ends |
| the build | the variant is skipped |
| the search | the variant is skipped |
| the report | the session ends |
-/

import TestBench.Discovery
import TestBench.Report.Whole
import TestBench.Run.Runner
import TestBench.Sanitizer.Build
import TestBench.Sanitizer.Variant
import TestBench.Text.Plural

namespace TestBench
namespace Sanitizer

/-- What became of a variant. -/
inductive VariantResult where
  /-- It was built, run and reported. -/
  | completed (stats : Report.Stats)
  | notBuilt (err : BuildError)
  | notSearched (err : Discovery.DiscoveryError)
  deriving DecidableEq, Repr

namespace VariantResult

def isCompleted : VariantResult → Bool
  | completed _ => true
  | _ => false

/-- The variant was not run, or has failures. -/
def hasFailures : VariantResult → Bool
  | completed stats => stats.hasFailures
  | _ => true

end VariantResult

/-- A variant and what became of it. -/
structure VariantOutcome where
  variant : Text
  result : VariantResult
  deriving DecidableEq, Repr

/-- How the variants are run. -/
structure Plan where
  buildDir : Text
  pattern : Glob.NamePattern
  runner : Run.Runner
  reporter : Report.Reporter
  trigger : Trigger

/-- What a session has led to so far. -/
structure Progress where
  host : Host
  sink : Report.Sink
  journal : Log.Journal
  /-- The variants whose builds were triggered. -/
  triggered : List Text
  /-- The binaries that were run. -/
  executions : List Run.Execution

namespace Progress

/-- Nothing has been done. -/
def start (host : Host) (sink : Report.Sink) : Progress :=
  { host, sink, journal := [], triggered := [], executions := [] }

/-- More is written. -/
def write {α : Type} (progress : Progress) (writing : Report.Writing α) :
    Progress × Except Report.Halt α :=
  let (sink, result) := writing progress.sink
  ({ progress with sink }, result)

/-- More goes to standard error. -/
def note (progress : Progress) (journal : Log.Journal) : Progress :=
  { progress with journal := progress.journal ++ journal }

/-- More binaries were run. -/
def ran (progress : Progress) (executions : List Run.Execution) : Progress :=
  { progress with executions := progress.executions ++ executions }

/-- A variant is built. -/
def build (progress : Progress) (trigger : Trigger) (variant : Text) :
    Progress × Except BuildError Unit :=
  let build := trigger progress.host variant
  ({ progress with
      host := { progress.host with tree := build.tree }
      journal := progress.journal ++ build.journal
      triggered := progress.triggered ++ [variant] }, build.result)

end Progress

/-- The event of a variant that is skipped: what happened and what lies behind it. -/
def skipped (variant message : Text) (causes : List Text) : Log.Event :=
  { level := .error, target := .sanitizer
    message := "skipping variant ".toList ++ Text.quoted variant ++ ": ".toList
      ++ joinWith ": ".toList (message :: causes) }

namespace Plan

/-- The binaries of a variant are run and reported. -/
def reportOn (plan : Plan) (progress : Progress) (paths : List Text) :
    Progress × Except Report.Halt VariantResult :=
  let trials := plan.runner.execute progress.host paths
  let executions := trials.map Run.Trial.execution
  let progress := (progress.note (.ofEvents (trials.flatMap Run.Trial.events))).ran executions
  match progress.write (plan.reporter.writeReport executions (plan.runner.elapsed trials)) with
  | (progress, .ok stats) => (progress, .ok (.completed stats))
  | (progress, .error halt) => (progress, .error halt)

/-- A variant is introduced, and what is written so far is passed on before anything is built. -/
def introduce (plan : Plan) (variant : Text) : Report.Writing Unit := do
  plan.reporter.writeBanner variant
  Report.Writing.flush

/-- One variant. -/
def runVariant (plan : Plan) (progress : Progress) (variant : Text) :
    Progress × Except Report.Halt VariantResult :=
  match progress.write (plan.introduce variant) with
  | (progress, .error halt) => (progress, .error halt)
  | (progress, .ok ()) =>
    match progress.build plan.trigger variant with
    | (progress, .error err) =>
      (progress.note [.event (skipped variant err.message err.causes)], .ok (.notBuilt err))
    | (progress, .ok ()) =>
      match Discovery.discover progress.host.tree progress.host.here plan.pattern
          (tree plan.buildDir variant) with
      | (.error err, events) =>
        (progress.note (.ofEvents (events ++ [skipped variant err.message [err.cause.message]])),
          .ok (.notSearched err))
      | (.ok paths, events) => plan.reportOn (progress.note (.ofEvents events)) paths

/-- Variants one after the other, up to the first report that halts. -/
def runVariants (plan : Plan) (progress : Progress) :
    List Text → Progress × Except Report.Halt (List VariantOutcome)
  | [] => (progress, .ok [])
  | variant :: rest =>
    match plan.runVariant progress variant with
    | (progress, .error halt) => (progress, .error halt)
    | (progress, .ok result) =>
      match runVariants plan progress rest with
      | (progress, .error halt) => (progress, .error halt)
      | (progress, .ok outcomes) => (progress, .ok ({ variant, result } :: outcomes))

/-- The event at the end of a session. -/
def summaryEvent (outcomes : List VariantOutcome) : Log.Event :=
  { level := .debug, target := .sanitizer
    message := Decimal.write (outcomes.countP fun o => o.result.isCompleted) ++ '/' ::
      Decimal.write outcomes.length ++ " sanitizer ".toList ++ Plural.variants outcomes.length
        ++ " completed".toList }

/-- A whole session. -/
def run (plan : Plan) (host : Host) (sink : Report.Sink) (variants : List Text) :
    Progress × Except Report.Halt (List VariantOutcome) :=
  match plan.runVariants (.start host sink) variants with
  | (progress, .error halt) => (progress, .error halt)
  | (progress, .ok outcomes) =>
    (progress.note [.event (summaryEvent outcomes)], .ok outcomes)

end Plan
end Sanitizer
end TestBench
