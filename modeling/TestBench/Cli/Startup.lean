/-
# From start to exit

The arguments are read, the log is set up from a variable, the command is carried out, and a failure is
told.  A command line that is not carried out answers on its own.
-/

import TestBench.Cli.Dispatch
import TestBench.Log.Display

namespace TestBench
namespace Cli

/-- What the program leaves to whoever started it. -/
structure Answer where
  exitCode : Nat
  stdout : Bytes
  stderr : Bytes
  deriving DecidableEq, Repr

namespace Refusal

/-- What a command line that is not carried out is answered with: help and version are asked for, all
else is an error. -/
def exitCode : Refusal → Nat
  | helpWanted | versionWanted => ExitCode.success
  | _ => ExitCode.usage

/-- The name of the program and its version. -/
def versionText : Text := "ktest 0.1.0\n".toList

/-- How the program is called. -/
def usageText : Text := "Usage: ktest [OPTIONS] <run|sanitizers|help>\n".toList

/-- The answer to a command line that is not carried out. -/
def answer (refusal : Refusal) : Answer :=
  match refusal with
  | versionWanted =>
    { exitCode := refusal.exitCode, stdout := Utf8.encode versionText, stderr := [] }
  | helpWanted => { exitCode := refusal.exitCode, stdout := Utf8.encode usageText, stderr := [] }
  | _ => { exitCode := refusal.exitCode, stdout := [], stderr := Utf8.encode usageText }

end Refusal

namespace Startup

/-- The variable that holds the log filter. -/
def filterVariable : Text := "KTEST_LOG".toList

/-- The warning of a log filter that is none. -/
def filterWarning (text : Text) (err : Log.FilterError) : Log.Event :=
  { level := .warn, target := .output
    message := "ignoring invalid ".toList ++ filterVariable ++ " value ".toList ++ Text.quoted text
      ++ ": ".toList ++ err.message }

/-- The log filter that the variables ask for, and what is logged of it.  A value that is no text asks for none. -/
def filterOf (env : Program.Block) : Log.Filter × List Log.Event :=
  match ((env.get? (Utf8.encode filterVariable)).bind Utf8.toText?).getD [] with
  | [] => (.standard, [])
  | text =>
    match Log.Filter.ofText text with
    | .ok filter => (filter, [])
    | .error err => (.standard, [filterWarning text err])

/-- The answer of the program to its arguments. -/
def answer (around : Surroundings) (arguments : List Text) : Answer :=
  match Invocation.ofArguments around.host.processors around.host.environment arguments with
  | .error refusal => refusal.answer
  | .ok invocation =>
    let color := invocation.color.isOn
    let (filter, events) := filterOf around.host.environment
    let effect := invocation.execute around
    { exitCode := effect.exitCode, stdout := effect.stdout
      stderr := ({ filter, color } : Log.Display).render
        (.ofEvents events ++ effect.stderr color) }

end Startup
end Cli
end TestBench
