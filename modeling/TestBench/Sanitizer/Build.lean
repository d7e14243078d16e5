/-
# Building variants

A trigger builds a variant before its binaries are looked for.  Without a build command nothing is built
and the variant is taken as it is.  With one, the command is run for the variant; both its outputs go to
standard error, and any end but exit code 0 is a failure.
-/

import TestBench.Host
import TestBench.Launch
import TestBench.Log.Journal
import TestBench.Sanitizer.BuildCommand

namespace TestBench
namespace Sanitizer

/-- Why a variant was not built. -/
inductive BuildError where
  /-- The command could not be started. -/
  | notStarted (command : Text) (cause : SystemError)
  /-- The command ended badly; there is no code if a signal killed it. -/
  | failed (command : Text) (code : Option Nat)
  deriving DecidableEq, Repr

namespace BuildError

/-- What is said of a variant that was not built. -/
def message : BuildError → Text
  | notStarted command _ => "failed to execute ".toList ++ Text.quoted command
  | failed command (some code) =>
    Text.quoted command ++ " failed with exit code ".toList ++ Decimal.write code
  | failed command none => Text.quoted command ++ " failed (terminated by signal)".toList

/-- What lies behind it. -/
def causes : BuildError → List Text
  | notStarted _ cause => [cause.message]
  | failed _ _ => []

end BuildError

/-- What came of building a variant. -/
structure Build where
  result : Except BuildError Unit
  journal : Log.Journal
  /-- The files afterwards. -/
  tree : FileTree

/-- What builds variants. -/
abbrev Trigger := Host → (variant : Text) → Build

namespace Trigger

/-- Takes variants as they are. -/
def none : Trigger := fun host variant =>
  { result := .ok ()
    journal := [.event { level := .debug, target := .sanitizer
                         message := "no build command configured, assuming ".toList
                           ++ Text.quoted variant ++ " is built".toList }]
    tree := host.tree }

/-- The announcement of a build. -/
def announcement (variant command : Text) : Log.Event :=
  { level := .info, target := .sanitizer
    message := "building variant ".toList ++ Text.quoted variant ++ ": ".toList ++ command }

/-- The result of a command that ended. -/
def resultOf (command : Text) (exit : Program.Exit) : Except BuildError Unit :=
  if exit.isSuccess then .ok () else .error (.failed command exit.code?)

/-- Runs a command for each variant. -/
def ofCommand (command : BuildCommand) : Trigger := fun host variant =>
  let command := command.forVariant variant
  let announced := .event (announcement variant command.text)
  match Launch.start host.tree host.here host.environment command.program command.arguments with
  | .error cause =>
    { result := .error (.notStarted command.text cause), journal := [announced], tree := host.tree }
  | .ok (performance, tree) =>
    { result := resultOf command.text performance.exit
      journal := [announced, .output performance.output], tree }

/-- The trigger for a build command, if there is one. -/
def ofCommand? : Option BuildCommand → Trigger
  | some command => ofCommand command
  | Option.none => none

end Trigger
end Sanitizer
end TestBench
