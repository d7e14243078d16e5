/-
# The build command

The command that builds a variant: words with a placeholder for the variant's name.  The words are
those of the command as it is written; the placeholder is replaced inside of them, so that the name of
a variant never adds a word or takes one away.
-/

import TestBench.Shell.Words

namespace TestBench
namespace Sanitizer

/-- The words of a build command. -/
structure BuildCommand where
  program : Text
  arguments : List Text
  deriving DecidableEq, Repr

/-- A text that is no build command. -/
inductive BuildCommandError where
  /-- A quote is not closed. -/
  | unclosedQuote (command : Text)
  /-- There is no word. -/
  | empty
  deriving DecidableEq, Repr

namespace BuildCommandError

/-- What is said of a text that is no build command. -/
def message : BuildCommandError → Text
  | unclosedQuote command => "invalid build command ".toList ++ Text.quoted command
  | empty => "build command is empty".toList

/-- Why it is none. -/
def causes : BuildCommandError → List Text
  | unclosedQuote _ => ["missing closing quote".toList]
  | empty => []

end BuildCommandError

namespace BuildCommand

/-- What stands for the name of the variant. -/
def placeholder : Text := "\x7bvariant\x7d".toList

/-- The build command that a text describes. -/
def ofText (command : Text) : Except BuildCommandError BuildCommand :=
  match Shell.split? command with
  | none => .error (.unclosedQuote command)
  | some [] => .error .empty
  | some (program :: arguments) => .ok { program, arguments }

/-- A word for a variant. -/
def wordFor (variant word : Text) : Text := replaceAll placeholder variant word

/-- The command for a variant. -/
def forVariant (command : BuildCommand) (variant : Text) : BuildCommand :=
  { program := wordFor variant command.program
    arguments := command.arguments.map (wordFor variant) }

/-- All words of the command. -/
def words (command : BuildCommand) : List Text := command.program :: command.arguments

/-- The command as it is shown. -/
def text (command : BuildCommand) : Text := Shell.join command.words

end BuildCommand
end Sanitizer
end TestBench
