/-
# How a command fails

A command that fails says what happened and what lies behind it, and has an exit code.

| failure | exit code |
| --- | ---: |
| the command cannot be set up | 96 |
| tests failed, and failures are to show | 100 |
| no variant was built and run | 101 |
| the program panics | 101 |
| the report cannot be written | 110 |

A command that succeeds has exit code 0; arguments that are not understood have 2.  What is said of a panic
is no event of the program's own, and is left out.
-/

import TestBench.Discovery
import TestBench.Log.Journal
import TestBench.Report.Writing
import TestBench.Sanitizer.BuildCommand
import TestBench.Sanitizer.Declared
import TestBench.Settings.Source

namespace TestBench
namespace Cli

namespace ExitCode

def success : Nat := 0

/-- The arguments are not understood. -/
def usage : Nat := 2

/-- The command could not be set up. -/
def setup : Nat := 96

/-- Tests failed. -/
def testsFailed : Nat := 100

/-- Nothing was built. -/
def nothingBuilt : Nat := 101

/-- The program panicked. -/
def crashed : Nat := 101

/-- The report could not be written. -/
def unwritten : Nat := 110

end ExitCode

/-- Why a command failed. -/
inductive Failure where
  /-- There is no working directory. -/
  | workingDirectoryGone (cause : SystemError)
  /-- The path of the working directory is not text. -/
  | workingDirectoryNotText (path : Bytes)
  | settings (err : Settings.SourceError)
  | pattern (err : Glob.PatternError)
  | buildDir (err : Discovery.DiscoveryError)
  /-- Test binaries cannot be run at all. -/
  | runner (cause : SystemError)
  | variantsDir (err : Sanitizer.VariantsError)
  | buildCommand (err : Sanitizer.BuildCommandError)
  | report (err : Report.WriteError)
  | testsFailed
  /-- No variant was built and run. -/
  | allVariantsFailed (variants : List Text)
  /-- The program panicked. -/
  | crashed

namespace Failure

/-- A report that was not written to its end. -/
def ofHalt : Report.Halt → Failure
  | .refused err => report err
  | .crashed => crashed

/-- The exit code of a command that fails so. -/
def exitCode : Failure → Nat
  | report _ => ExitCode.unwritten
  | testsFailed => ExitCode.testsFailed
  | allVariantsFailed _ => ExitCode.nothingBuilt
  | crashed => ExitCode.crashed
  | _ => ExitCode.setup

/-- A text that stands out where colours are used. -/
def strong (color : Bool) (text : Text) : Text :=
  if color then Report.inRendition Report.Style.strong.parameters text else text

/-- What is said of the failure. -/
def message (color : Bool) : Failure → Text
  | workingDirectoryGone _ => "could not determine the current directory".toList
  | workingDirectoryNotText path =>
    "current directory `".toList ++ strong color (Utf8.decodeLossy path)
      ++ "` is not valid UTF-8".toList
  | settings err => err.message
  | pattern err => err.message
  | buildDir err =>
    "failed to read build directory `".toList ++ strong color err.root ++ "`".toList
  | runner _ => "failed to build test runner".toList
  | variantsDir err => err.message
  | buildCommand err => err.message
  | report _ => "failed to write report".toList
  | testsFailed => "test run failed".toList
  | allVariantsFailed variants =>
    "every sanitizer variant failed to build: ".toList
      ++ joinWith ", ".toList (variants.map (strong color))
  | crashed => []

/-- What lies behind the failure, the nearest first. -/
def causes : Failure → List Text
  | workingDirectoryGone cause => [cause.message]
  | settings err => [err.fault.message]
  | pattern err => err.causes
  | buildDir err => [err.cause.message]
  | runner cause => ["error creating Tokio runtime".toList, cause.message]
  | variantsDir err => [err.cause.message]
  | buildCommand err => err.causes
  | report err => [Report.WriteError.message, err.cause]
  | _ => []

/-- The event of a cause. -/
def causeEvent (cause : Text) : Log.Event :=
  { level := .error, target := .cause
    message := "\nCaused by:\n  ".toList ++ cause }

/-- What is logged of the failure. -/
def events (color : Bool) : Failure → List Log.Event
  | crashed => []
  | failure =>
    { level := .error, target := .failure, message := failure.message color }
      :: failure.causes.map causeEvent

end Failure
end Cli
end TestBench
