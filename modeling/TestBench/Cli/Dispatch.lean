/-
# Carrying out commands

A command is set up from its options and the settings; options go before settings.  `run` looks for the
test binaries of the build directory, runs them and reports.  `sanitizers` does so for each variant.

What a command amounts to is its exit code, its standard output, and the journal of its standard error.

What the system makes of test binaries and of builds is a matter of the surroundings.
-/

import TestBench.Cli.Arguments
import TestBench.Cli.Failure
import TestBench.Sanitizer.Session

namespace TestBench
namespace Cli

/-- What is around a command. -/
structure Surroundings where
  host : Host
  /-- The path of the working directory. -/
  path : Bytes
  /-- Where standard output goes. -/
  sink : Report.Sink
  /-- What starts test binaries. -/
  supervisor : Run.Supervisor := .undisturbed
  /-- Which of the running binaries ends next, as often as one does. -/
  order : Nat → Nat := fun _ => 0
  /-- What builds variants, by the build command. -/
  trigger : Option Sanitizer.BuildCommand → Sanitizer.Trigger := Sanitizer.Trigger.ofCommand?
  /-- Why test binaries cannot be run at all; they can, if absent. -/
  runnerFault : Option SystemError := none
  /-- The matcher of a pattern can be put together; if not, the program panics. -/
  hasMatcher : Glob.NamePattern → Bool := Glob.NamePattern.isShallow

/-- What a command led to: its result, its standard output, its journal, and the binaries it ran. -/
structure Effect where
  result : Except Failure Unit
  stdout : Bytes
  journal : Log.Journal
  executions : List Run.Execution

namespace Effect

/-- The effect of a failure before anything was written. -/
def failed (failure : Failure) (journal : Log.Journal) : Effect :=
  { result := .error failure, stdout := [], journal, executions := [] }

/-- The exit code of the command. -/
def exitCode (effect : Effect) : Nat :=
  match effect.result with
  | .ok () => ExitCode.success
  | .error failure => failure.exitCode

/-- All that goes to standard error; what is said of a failure comes last. -/
def stderr (effect : Effect) (color : Bool) : Log.Journal :=
  match effect.result with
  | .ok () => effect.journal
  | .error failure => effect.journal ++ .ofEvents (failure.events color)

end Effect

/-- A command that is set up. -/
structure Bench where
  host : Host
  sink : Report.Sink
  /-- The path of the working directory. -/
  base : Text
  buildDir : Text
  pattern : Glob.NamePattern
  preferences : Settings.Preferences
  failOnError : Bool
  runner : Run.Runner
  trigger : Option Sanitizer.BuildCommand → Sanitizer.Trigger
  color : Bool

namespace Bench

/-- The path of the working directory as text. -/
def workingDirectory (around : Surroundings) : Except Failure Text :=
  if around.host.tree.entry? around.host.here = some .directory then
    match Utf8.toText? around.path with
    | some base => .ok base
    | none => .error (.workingDirectoryNotText around.path)
  else .error (.workingDirectoryGone .notFound)

/-- What is logged when a command is set up. -/
def readyEvent (threads : Nat) : Log.Event :=
  { level := .debug, target := .dispatch
    message := "running up to ".toList ++ Decimal.write threads ++ " test ".toList
      ++ Plural.binaries threads ++ " at once".toList }

/-- How many binaries are run at once: as many as the options say, or else the settings. -/
def threadsFor (around : Surroundings) (common : Common) (preferences : Settings.Preferences) : Nat :=
  (common.threads.getD preferences.threads).resolve around.host.processors

/-- A command put together from the options and the settings. -/
def assemble (around : Surroundings) (color : Bool) (common : Common) (base : Text)
    (pattern : Glob.NamePattern) (preferences : Settings.Preferences) : Bench :=
  { host := around.host, sink := around.sink, base, buildDir := common.buildDir, pattern, preferences
    failOnError := common.failOnError || preferences.failOnError
    runner := { threads := threadsFor around common preferences
                limit := common.timeout.or preferences.timeout
                environment := preferences.environment
                supervisor := around.supervisor, order := around.order }
    trigger := around.trigger, color }

/-- A command set up from the options that all commands share, and what is logged. -/
def setUp (around : Surroundings) (color : Bool) (common : Common) :
    Except Failure Bench × List Log.Event :=
  match workingDirectory around with
  | .error failure => (.error failure, [])
  | .ok base =>
    match Settings.load around.host.processors around.host.tree around.host.here base
        common.configFile with
    | (.error err, events) => (.error (.settings err), events)
    | (.ok preferences, events) =>
      match Glob.NamePattern.ofText common.pattern with
      | .error err => (.error (.pattern err), events)
      | .ok pattern =>
        if !around.hasMatcher pattern then (.error .crashed, events)
        else match around.runnerFault with
          | some cause => (.error (.runner cause), events)
          | none =>
            (.ok (assemble around color common base pattern preferences),
              events ++ [readyEvent (threadsFor around common preferences)])

/-- The warning of a build directory without test binaries. -/
def nothingFoundEvent (bench : Bench) : Log.Event :=
  { level := .warn, target := .dispatch
    message := "no test binaries matching ".toList ++ Text.quoted bench.pattern.text
      ++ " found in ".toList ++ Text.quoted bench.buildDir }

/-- How the command writes reports. -/
def reporter (bench : Bench) : Report.Reporter := { color := bench.color, base := some bench.base }

/-- The result of a command whose tests are known to have failures or not. -/
def resultOf (bench : Bench) (hasFailures : Bool) : Except Failure Unit :=
  if bench.failOnError && hasFailures then .error .testsFailed else .ok ()

/-- The test binaries of the build directory are run and reported. -/
def run (bench : Bench) : Effect :=
  match Discovery.discover bench.host.tree bench.host.here bench.pattern bench.buildDir with
  | (.error err, events) => .failed (.buildDir err) (.ofEvents events)
  | (.ok paths, events) =>
    let trials := bench.runner.execute bench.host paths
    let executions := trials.map Run.Trial.execution
    let journal := events ++ trials.flatMap Run.Trial.events
      ++ if trials.isEmpty then [bench.nothingFoundEvent] else []
    let (sink, written) :=
      bench.reporter.writeReport executions (bench.runner.elapsed trials) bench.sink
    { result := match written with
        | .ok stats => bench.resultOf stats.hasFailures
        | .error halt => .error (.ofHalt halt)
      stdout := sink.output, journal := .ofEvents journal, executions }

/-- The warning that no variants are declared. -/
def noVariantsEvent (dir : Text) : Log.Event :=
  { level := .warn, target := .dispatch
    message := "no sanitizer variants declared in ".toList ++ Text.quoted dir }

/-- The event that tells the variants. -/
def variantsEvent (variants : List Text) : Log.Event :=
  { level := .info, target := .dispatch
    message := "found ".toList ++ Decimal.write variants.length ++ " sanitizer ".toList
      ++ Plural.variants variants.length ++ ": ".toList ++ joinWith ", ".toList variants }

/-- The directory that declares the variants: the one that is given, the one of the settings, or the
build directory. -/
def variantsDir (bench : Bench) (given : Option Text) : Text :=
  (given.or (bench.preferences.variantsDir.map (Path.join bench.base))).getD bench.buildDir

/-- The build command that is given, or that of the settings. -/
def buildCommand (bench : Bench) (given : Option Text) :
    Except Failure (Option Sanitizer.BuildCommand) :=
  match given.or bench.preferences.buildCommand with
  | none => .ok none
  | some command =>
    match Sanitizer.BuildCommand.ofText command with
    | .ok command => .ok (some command)
    | .error err => .error (.buildCommand err)

/-- The result of a session. -/
def resultOfSession (bench : Bench) :
    Except Report.Halt (List Sanitizer.VariantOutcome) → Except Failure Unit
  | .error halt => .error (.ofHalt halt)
  | .ok outcomes =>
    if outcomes.all fun o => !o.result.isCompleted then
      .error (.allVariantsFailed (outcomes.map Sanitizer.VariantOutcome.variant))
    else bench.resultOf (outcomes.any fun o => o.result.hasFailures)

/-- How the variants are run. -/
def plan (bench : Bench) (command : Option Sanitizer.BuildCommand) : Sanitizer.Plan :=
  { buildDir := bench.buildDir, pattern := bench.pattern, runner := bench.runner
    reporter := bench.reporter, trigger := bench.trigger command }

/-- The variants are built, run and reported. -/
def sanitizers (bench : Bench) (variantsDir buildCommand : Option Text) : Effect :=
  let dir := bench.variantsDir variantsDir
  match Sanitizer.variants bench.host.tree bench.host.here dir with
  | (.error err, events) => .failed (.variantsDir err) (.ofEvents events)
  | (.ok [], events) =>
    { result := .ok (), stdout := [], journal := .ofEvents (events ++ [noVariantsEvent dir])
      executions := [] }
  | (.ok variants, events) =>
    let journal := Log.Journal.ofEvents (events ++ [variantsEvent variants])
    match bench.buildCommand buildCommand with
    | .error failure => .failed failure journal
    | .ok command =>
      let (progress, outcomes) := (bench.plan command).run bench.host bench.sink variants
      { result := bench.resultOfSession outcomes, stdout := progress.sink.output
        journal := journal ++ progress.journal, executions := progress.executions }

end Bench

namespace Command

/-- The options that all commands share. -/
def common : Command → Common
  | run common => common
  | sanitizers common _ _ => common

/-- What a command does once it is set up. -/
def carryOut (command : Command) (bench : Bench) : Effect :=
  match command with
  | run _ => bench.run
  | sanitizers _ variantsDir buildCommand => bench.sanitizers variantsDir buildCommand

end Command

namespace Invocation

/-- What a command line leads to. -/
def execute (invocation : Invocation) (around : Surroundings) : Effect :=
  match Bench.setUp around invocation.color.isOn invocation.command.common with
  | (.error failure, events) => .failed failure (.ofEvents events)
  | (.ok bench, events) =>
    let effect := invocation.command.carryOut bench
    { effect with journal := .ofEvents events ++ effect.journal }

end Invocation
end Cli
end TestBench
