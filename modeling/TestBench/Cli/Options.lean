/-
# The options of the command line

| option | spelled | takes | known to |
| --- | --- | --- | --- |
| `color` | `--color` | `auto`, `always`, `never` | all |
| `help` | `--help`, `-h` | nothing | all |
| `version` | `--version`, `-V` | nothing | the top level |
| `buildDir` | `--build-dir`, `-d` | a path | both commands |
| `pattern` | `--pattern`, `-p` | a pattern | both commands |
| `configFile` | `--config-file` | a path | both commands |
| `threads` | `--test-threads`, `--jobs`, `-j` | a number of binaries | both commands |
| `timeout` | `--timeout` | a duration | both commands |
| `failOnError` | `--fail-on-error` | nothing | both commands |
| `variantsDir` | `--variants-dir` | a path | `sanitizers` |
| `buildCommand` | `--build-command` | a command | `sanitizers` |

Two options have a variable that speaks for them where they are not given.
-/

import TestBench.Duration.Reader
import TestBench.Settings.Threads

namespace TestBench
namespace Cli

/-- A part of the command line with options of its own. -/
inductive Scope where
  | top
  | run
  | sanitizers
  deriving DecidableEq, Repr

/-- An option. -/
inductive Opt where
  | color
  | help
  | version
  | buildDir
  | pattern
  | configFile
  | threads
  | timeout
  | failOnError
  | variantsDir
  | buildCommand
  deriving DecidableEq, Repr

namespace Opt

/-- All options. -/
def all : List Opt :=
  [buildDir, pattern, configFile, threads, timeout, failOnError, variantsDir, buildCommand, color,
    help, version]

/-- The option is known in a scope. -/
def isKnownIn (scope : Scope) : Opt → Bool
  | color | help => true
  | version => scope = .top
  | variantsDir | buildCommand => scope = .sanitizers
  | _ => scope ≠ .top

/-- The spellings of an option behind two hyphens. -/
def longNames : Opt → List Text
  | color => ["color".toList]
  | help => ["help".toList]
  | version => ["version".toList]
  | buildDir => ["build-dir".toList]
  | pattern => ["pattern".toList]
  | configFile => ["config-file".toList]
  | threads => ["test-threads".toList, "jobs".toList]
  | timeout => ["timeout".toList]
  | failOnError => ["fail-on-error".toList]
  | variantsDir => ["variants-dir".toList]
  | buildCommand => ["build-command".toList]

/-- The letter of an option behind one hyphen. -/
def letter? : Opt → Option Char
  | help => some 'h'
  | version => some 'V'
  | buildDir => some 'd'
  | pattern => some 'p'
  | threads => some 'j'
  | _ => none

/-- The option takes a value. -/
def takesValue : Opt → Bool
  | help | version | failOnError => false
  | _ => true

/-- The variable that speaks for an option that is not given. -/
def envName? : Opt → Option Text
  | color => some "CARGO_TERM_COLOR".toList
  | threads => some "KTEST_TEST_THREADS".toList
  | _ => none

/-- The option of this long spelling in a scope. -/
def ofLong? (scope : Scope) (name : Text) : Option Opt :=
  all.find? fun opt => opt.isKnownIn scope && opt.longNames.contains name

/-- The option of this letter in a scope. -/
def ofLetter? (scope : Scope) (letter : Char) : Option Opt :=
  all.find? fun opt => opt.isKnownIn scope && opt.letter? = some letter

end Opt

/-- When to use colours. -/
inductive ColorChoice where
  | auto
  | always
  | never
  deriving DecidableEq, Repr

namespace ColorChoice

/-- The choice that a word names. -/
def ofText? (text : Text) : Option ColorChoice :=
  if text = "auto".toList then some auto
  else if text = "always".toList then some always
  else if text = "never".toList then some never
  else none

/-- Colours are used for an output that is no terminal. -/
def isOn (choice : ColorChoice) : Bool := choice = always

end ColorChoice

/-- Why the command line is not carried out. -/
inductive Refusal where
  /-- Help is asked for. -/
  | helpWanted
  /-- The version is asked for. -/
  | versionWanted
  /-- Nothing is given. -/
  | nothingGiven
  /-- No command is given. -/
  | commandMissing
  | unknownArgument (argument : Text)
  | unknownCommand (argument : Text)
  /-- An option is given twice. -/
  | repeated (opt : Opt)
  | valueMissing (opt : Opt)
  /-- A value stands with an option that takes none. -/
  | valueUnwanted (opt : Opt)
  /-- A value is not among those that an option offers. -/
  | valueNotOffered (opt : Opt) (value : Text)
  /-- The value of a variable is no text. -/
  | valueNotText (opt : Opt)
  /-- A value makes no sense for an option. -/
  | valueInvalid (opt : Opt) (value : Text)
  deriving DecidableEq, Repr

/-- The options given in one scope, with their values. -/
structure Given where
  color : Option ColorChoice
  buildDir : Option Text
  pattern : Option Text
  configFile : Option Text
  threads : Option Settings.Threads
  timeout : Option Duration
  failOnError : Bool
  variantsDir : Option Text
  buildCommand : Option Text
  deriving DecidableEq, Repr

namespace Given

/-- No options. -/
def empty : Given :=
  { color := none, buildDir := none, pattern := none, configFile := none, threads := none
    timeout := none, failOnError := false, variantsDir := none, buildCommand := none }

/-- The option is given. -/
def has (given : Given) : Opt → Bool
  | .color => given.color.isSome
  | .help | .version => false
  | .buildDir => given.buildDir.isSome
  | .pattern => given.pattern.isSome
  | .configFile => given.configFile.isSome
  | .threads => given.threads.isSome
  | .timeout => given.timeout.isSome
  | .failOnError => given.failOnError
  | .variantsDir => given.variantsDir.isSome
  | .buildCommand => given.buildCommand.isSome

/-- The options with a value for one of them, which is checked; `cpus` is the number of processors. -/
def assign (cpus : Nat) (given : Given) (opt : Opt) (value : Text) : Except Refusal Given :=
  match opt with
  | .color =>
    match ColorChoice.ofText? value with
    | some choice => .ok { given with color := some choice }
    | none => .error (.valueNotOffered .color value)
  | .help => .error .helpWanted
  | .version => .error .versionWanted
  | .buildDir => .ok { given with buildDir := some value }
  | .pattern => .ok { given with pattern := some value }
  | .configFile => .ok { given with configFile := some value }
  | .threads =>
    match Settings.Threads.ofText cpus value with
    | .ok threads => .ok { given with threads := some threads }
    | .error _ => .error (.valueInvalid .threads value)
  | .timeout =>
    match Duration.ofText? value with
    | some timeout => .ok { given with timeout := some timeout }
    | none => .error (.valueInvalid .timeout value)
  | .failOnError => .ok { given with failOnError := true }
  | .variantsDir => .ok { given with variantsDir := some value }
  | .buildCommand => .ok { given with buildCommand := some value }

/-- The options with one more of them.  None may be given twice. -/
def add (cpus : Nat) (given : Given) (opt : Opt) (value : Text) : Except Refusal Given :=
  if given.has opt then .error (.repeated opt) else given.assign cpus opt value

end Given
end Cli
end TestBench
