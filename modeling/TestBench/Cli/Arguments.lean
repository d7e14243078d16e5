/-
# Reading the arguments

The arguments are read from the left.  A value may be attached to its option, or be the next argument;
then it is looked at only when the next option comes or the arguments end.

| argument | is |
| --- | --- |
| `--name`, `--name=value` | an option |
| `-x`, `-xvalue`, `-x=value` | an option |
| `--` | the end of the options |
| any other behind an option without its value | that value |
| `run`, `sanitizers`, `help` at the top | a command |
| any other | not understood |

A negative number is the value of an option only for `threads`.  What is not understood is reported even
if a value before it makes no sense.
-/

import TestBench.Cli.Options
import TestBench.Program.Environment

namespace TestBench
namespace Cli

/-- An option whose value was not looked at yet, and the value, if it has come. -/
structure Pending where
  opt : Opt
  value : Option Text
  deriving DecidableEq, Repr

/-- A place in the arguments: what was given so far. -/
structure Reading where
  given : Given
  pending : Option Pending
  deriving DecidableEq, Repr

namespace Reading

/-- Nothing was read. -/
def start : Reading := { given := .empty, pending := none }

/-- The option that waits for its value. -/
def awaiting? (reading : Reading) : Option Opt :=
  match reading.pending with
  | some { opt, value := none } => some opt
  | _ => none

/-- The pending option is settled. -/
def settle (cpus : Nat) (reading : Reading) : Except Refusal Given :=
  match reading.pending with
  | none => .ok reading.given
  | some { opt, value := none } => .error (.valueMissing opt)
  | some { opt, value := some value } => reading.given.add cpus opt value

/-- An option came; `attached` is the value that came with it. -/
def takeOption (cpus : Nat) (reading : Reading) (opt : Opt) (attached : Option Text) :
    Except Refusal Reading :=
  match attached with
  | some value =>
    match reading.settle cpus with
    | .error refusal => .error refusal
    | .ok given => (given.add cpus opt value).map fun given => { given, pending := none }
  | none =>
    match reading.settle cpus with
    | .error refusal => .error refusal
    | .ok given =>
      if opt.takesValue then .ok { given, pending := some { opt, value := none } }
      else (given.add cpus opt []).map fun given => { given, pending := none }

end Reading

/-- A number behind a hyphen: digits with at most one dot behind the first of them, and an exponent that
is not the last letter. -/
def isNumberFrom (seenDot seenExponent atStart : Bool) : Text → Bool
  | [] => true
  | c :: rest =>
    if Decimal.isDigit c then isNumberFrom seenDot seenExponent false rest
    else if c = '.' ∧ seenDot = false ∧ seenExponent = false ∧ atStart = false then
      isNumberFrom true seenExponent false rest
    else if c = 'e' ∧ seenExponent = false ∧ atStart = false ∧ rest ≠ [] then
      isNumberFrom seenDot true false rest
    else false

/-- What an argument looks like. -/
inductive Shape where
  | long (name : Text) (attached : Option Text)
  | short (letter : Char) (rest : Text)
  | escape
  | word
  deriving DecidableEq, Repr

namespace Shape

/-- The shape of an argument. -/
def ofText : Text → Shape
  | ['-', '-'] => escape
  | '-' :: '-' :: rest =>
    match splitAtFirst? (· = '=') rest with
    | some (name, value) => long name (some value)
    | none => long rest none
  | '-' :: letter :: rest => short letter rest
  | _ => word

end Shape

/-- The value that stands directly behind the letter of an option. -/
def attachedValue? : Text → Option Text
  | [] => none
  | '=' :: value => some value
  | value => some value

/-- What the next argument does to a reading. -/
inductive Step where
  | goesOn (reading : Reading)
  /-- Only words follow. -/
  | escapes
  /-- It is neither an option nor a value. -/
  | stands
  deriving DecidableEq, Repr

/-- The next argument read in a scope. -/
def readOne (cpus : Nat) (scope : Scope) (reading : Reading) (argument : Text) :
    Except Refusal Step :=
  let asValue (otherwise : Step) : Step :=
    match reading.awaiting? with
    | some opt => .goesOn { reading with pending := some { opt, value := some argument } }
    | none => otherwise
  match Shape.ofText argument with
  | .escape => .ok .escapes
  | .long name attached =>
    match Opt.ofLong? scope name with
    | none => .error (.unknownArgument argument)
    | some opt =>
      if attached.isSome ∧ opt.takesValue = false then .error (.valueUnwanted opt)
      else (reading.takeOption cpus opt attached).map .goesOn
  | .short letter rest =>
    if reading.awaiting? = some .threads ∧ isNumberFrom false false true (letter :: rest) then
      .ok (asValue .stands)
    else match Opt.ofLetter? scope letter with
      | none => .error (.unknownArgument argument)
      | some opt =>
        (reading.takeOption cpus opt (if opt.takesValue then attachedValue? rest else none)).map
          .goesOn
  | .word => .ok (asValue .stands)

/-- The value of the variable that stands for an option. -/
def Opt.valueIn? (env : Program.Block) (opt : Opt) : Option Bytes :=
  opt.envName?.bind fun name => env.get? (Utf8.encode name)

/-- The options with the value of a variable for one of them; only a text is a value. -/
def Given.assignVariable (cpus : Nat) (given : Given) (opt : Opt) (value : Bytes) : Except Refusal Given :=
  match Utf8.toText? value with
  | some text => given.assign cpus opt text
  | none =>
    .error (if opt = .color then .valueNotOffered opt (Utf8.decodeLossy value) else .valueNotText opt)

/-- The values of variables for the options that are not given. -/
def addVariables (cpus : Nat) (env : Program.Block) (scope : Scope) (given : Given) :
    Except Refusal Given :=
  (Opt.all.filter (Opt.isKnownIn scope)).foldlM (fun given opt =>
    match opt.valueIn? env with
    | some value => if given.has opt then .ok given else given.assignVariable cpus opt value
    | none => .ok given) given

/-- The options of a command at the end of the arguments; those that came from the arguments alone, and
those with the variables. -/
def finishCommand (cpus : Nat) (env : Program.Block) (scope : Scope) (reading : Reading) :
    Except Refusal (Given × Given) :=
  match reading.settle cpus with
  | .error refusal => .error refusal
  | .ok given => (addVariables cpus env scope given).map (given, ·)

/-- The options of a command, read to the end of the arguments. -/
def readCommand (cpus : Nat) (env : Program.Block) (scope : Scope) :
    Reading → List Text → Except Refusal (Given × Given)
  | reading, [] => finishCommand cpus env scope reading
  | reading, argument :: rest =>
    match readOne cpus scope reading argument with
    | .error refusal => .error refusal
    | .ok (.goesOn reading) => readCommand cpus env scope reading rest
    | .ok .escapes =>
      match rest with
      | [] => finishCommand cpus env scope reading
      | word :: _ => .error (.unknownArgument word)
    | .ok .stands => .error (.unknownArgument argument)

/-- What is done in all commands. -/
structure Common where
  buildDir : Text
  pattern : Text
  configFile : Option Text
  threads : Option Settings.Threads
  timeout : Option Duration
  failOnError : Bool
  deriving DecidableEq, Repr

namespace Common

def defaultBuildDir : Text := "./build".toList

def defaultPattern : Text := "*_tests".toList

/-- The options that all commands share. -/
def ofGiven (given : Given) : Common :=
  { buildDir := given.buildDir.getD defaultBuildDir
    pattern := given.pattern.getD defaultPattern, configFile := given.configFile
    threads := given.threads, timeout := given.timeout, failOnError := given.failOnError }

end Common

/-- A command. -/
inductive Command where
  | run (common : Common)
  | sanitizers (common : Common) (variantsDir buildCommand : Option Text)
  deriving DecidableEq, Repr

namespace Command

/-- The command of a scope, with its options. -/
def ofGiven (scope : Scope) (given : Given) : Command :=
  match scope with
  | .sanitizers => .sanitizers (.ofGiven given) given.variantsDir given.buildCommand
  | _ => .run (.ofGiven given)

end Command

/-- A command line that was understood. -/
structure Invocation where
  color : ColorChoice
  command : Command
  deriving DecidableEq, Repr

namespace Invocation

/-- The scope of the command of this name. -/
def scopeOf? (name : Text) : Option Scope :=
  if name = "run".toList then some .run
  else if name = "sanitizers".toList then some .sanitizers
  else none

def helpName : Text := "help".toList

/-- The answer to `help` and the names behind it. -/
def helpAbout : List Text → Refusal
  | [] => .helpWanted
  | name :: rest =>
    if scopeOf? name = none ∧ name ≠ helpName then .unknownCommand name
    else match rest with
      | [] => .helpWanted
      | other :: _ => .unknownCommand other

/-- The answer to a word that is no command.  Behind `--` the name of a command is one argument too
many. -/
def notCommand (behindEscape : Bool) (word : Text) : Refusal :=
  if behindEscape ∧ (scopeOf? word ≠ none ∨ word = helpName) then .unknownArgument word
  else .unknownCommand word

/-- The answer to arguments without a command. -/
def withoutCommand (given : Given) : Refusal :=
  if given.color = none then .nothingGiven else .commandMissing

/-- The invocation with a command, once the options before the command are settled.  The colours of the
command go before those of the top level, and both before the variable. -/
def combine (cpus : Nat) (env : Program.Block) (reading : Reading) (scope : Scope)
    (own all : Given) : Except Refusal Invocation :=
  match reading.settle cpus with
  | .error refusal => .error refusal
  | .ok top =>
    match addVariables cpus env .top top with
    | .error refusal => .error refusal
    | .ok _ =>
      .ok { color := ((own.color.or top.color).or all.color).getD .auto
            command := .ofGiven scope all }

/-- The answer to arguments that end without a command. -/
def finishTop (cpus : Nat) (env : Program.Block) (reading : Reading) : Refusal :=
  match reading.settle cpus with
  | .error refusal => refusal
  | .ok given =>
    match addVariables cpus env .top given with
    | .error refusal => refusal
    | .ok given => withoutCommand given

/-- The arguments read from the top level on. -/
def readTop (cpus : Nat) (env : Program.Block) :
    Reading → List Text → Except Refusal Invocation
  | reading, [] => .error (finishTop cpus env reading)
  | reading, argument :: rest =>
    match if reading.awaiting? = none then scopeOf? argument else none with
    | some scope =>
      match readCommand cpus env scope .start rest with
      | .error refusal => .error refusal
      | .ok (own, all) => combine cpus env reading scope own all
    | none =>
      if reading.awaiting? = none ∧ argument = helpName then .error (helpAbout rest)
      else match readOne cpus .top reading argument with
        | .error refusal => .error refusal
        | .ok (.goesOn reading) => readTop cpus env reading rest
        | .ok .escapes =>
          match rest with
          | [] => .error (finishTop cpus env reading)
          | word :: _ => .error (notCommand true word)
        | .ok .stands => .error (notCommand false argument)

/-- The invocation that the arguments describe on a machine with `cpus` processors. -/
def ofArguments (cpus : Nat) (env : Program.Block) (arguments : List Text) :
    Except Refusal Invocation :=
  readTop cpus env .start arguments

end Invocation
end Cli
end TestBench
