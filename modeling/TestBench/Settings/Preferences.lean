/-
# Preferences

What can be set, and what holds where nothing is set.

| key | meaning | default |
| --- | --- | --- |
| `run.test-threads` | how many test binaries run at once | `num-cpus` |
| `run.timeout` | how long a test binary may run | no limit |
| `run.fail-on-error` | failures show in the exit code | no |
| `sanitizers.variants-dir` | the directory that declares the variants | none |
| `sanitizers.build-command` | the command that builds a variant | none |
| `sanitizers.env` | variables for the sanitizer runtimes | two of them |

A source of settings is laid over the defaults key by key.
-/

import TestBench.Settings.Decode
import TestBench.Settings.KeyPath

namespace TestBench
namespace Settings

/-- What can be set. -/
structure Preferences where
  threads : Threads
  timeout : Option Duration
  failOnError : Bool
  variantsDir : Option Text
  buildCommand : Option Text
  environment : Program.Environment
  deriving DecidableEq, Repr

namespace Preferences

def runKey : Text := "run".toList

def sanitizersKey : Text := "sanitizers".toList

def threadsKey : Text := "test-threads".toList

def timeoutKey : Text := "timeout".toList

def failOnErrorKey : Text := "fail-on-error".toList

def variantsDirKey : Text := "variants-dir".toList

def buildCommandKey : Text := "build-command".toList

def environmentKey : Text := "env".toList

/-- A text without origin. -/
def textValue (text : Text) : Value := .plain none (.string text)

/-- The variables for the sanitizer runtimes that are set unless other values are given. -/
def defaultEnvironment : List (Text × Text) :=
  [("ASAN_OPTIONS".toList,
      "color=always:detect_stack_use_after_return=1:strict_string_checks=1:detect_invalid_pointer_pairs=2".toList),
    ("UBSAN_OPTIONS".toList, "color=always:print_stacktrace=1".toList)]

/-- The settings that hold where nothing is set. -/
def defaults : Fields :=
  [(runKey, .table none
      [(threadsKey, textValue Threads.processorsWord),
        (failOnErrorKey, .plain none (.boolean false))]),
    (sanitizersKey, .table none
      [(environmentKey, .table none
          (defaultEnvironment.map fun (name, value) => (name, textValue value)))])]

/-- The settings of the run, while they are read. -/
structure RunDraft where
  threads : Option Threads
  timeout : Option Duration
  failOnError : Bool

/-- The settings of the sanitizers, while they are read. -/
structure SanitizersDraft where
  variantsDir : Option Text
  buildCommand : Option Text
  definitions : List (Text × Text)

/-- All settings, while they are read, and the keys that mean nothing. -/
structure Draft where
  run : Option RunDraft
  sanitizers : Option SanitizersDraft
  unknown : List Text

/-- What the section on runs is called in complaints. -/
def runSection : Text := "RunConfigDeserialize".toList

/-- What the section on sanitizers is called in complaints. -/
def sanitizersSection : Text := "SanitizersConfigDeserialize".toList

/-- The keys of the section on runs. -/
def runSlots (cpus : Nat) : List (Slot RunDraft) :=
  [.of threadsKey (Value.toThreads cpus) fun threads draft => { draft with threads := some threads },
    .of timeoutKey (Value.toOption Value.toDuration) fun timeout draft => { draft with timeout },
    .of failOnErrorKey Value.toBool fun failOnError draft => { draft with failOnError }]

/-- The keys of the section on sanitizers. -/
def sanitizersSlots : List (Slot SanitizersDraft) :=
  [.of variantsDirKey (Value.toOption Value.toText) fun variantsDir draft =>
      { draft with variantsDir },
    .of buildCommandKey (Value.toOption Value.toText) fun buildCommand draft =>
      { draft with buildCommand },
    .of environmentKey Value.toDefinitions fun definitions draft => { draft with definitions }]

/-- The complaint about a table without a key that must be there. -/
def missingKey (key : Text) : ReadError :=
  { complaint := "missing field ".toList ++ Text.quoted key, key := none, origin := none }

/-- The complaint about a list that ends before the number of binaries. -/
def emptySection : ReadError :=
  { complaint := "invalid length 0, expected struct ".toList ++ runSection
      ++ " with 3 elements".toList
    key := none, origin := none }

/-- The section on runs, which must give the number of binaries. -/
def readRun (cpus : Nat) (value : Value) : Except ReadError (RunDraft × List Text) :=
  match Section.read runSection (runSlots cpus)
      { threads := none, timeout := none, failOnError := false } value with
  | .error err => .error err
  | .ok (draft, unknown) =>
    match draft.threads, value with
    | some _, _ => .ok (draft, unknown)
    | none, .list _ _ => .error emptySection
    | none, _ => .error (missingKey threadsKey)

/-- The section on sanitizers. -/
def readSanitizers (value : Value) : Except ReadError (SanitizersDraft × List Text) :=
  Section.read sanitizersSection sanitizersSlots
    { variantsDir := none, buildCommand := none, definitions := [] } value

/-- Keys as they are called from above the section that they stand in. -/
def qualify (section_ : Text) (keys : List Text) : List Text :=
  keys.map fun key => section_ ++ '.' :: key

/-- The sections. -/
def sections (cpus : Nat) : List (Slot Draft) :=
  [{ key := runKey
     read := fun value draft =>
      (readRun cpus value).map fun (run, unknown) =>
        { draft with run := some run, unknown := draft.unknown ++ qualify runKey unknown } },
    { key := sanitizersKey
      read := fun value draft =>
      (readSanitizers value).map fun (sanitizers, unknown) =>
        { draft with
          sanitizers := some sanitizers
          unknown := draft.unknown ++ qualify sanitizersKey unknown } }]

/-- The preferences that settings give, and the keys that mean nothing, in ascending order. -/
def ofFields (cpus : Nat) (fields : Fields) : Except ReadError (Preferences × List Text) :=
  match Section.readFields (sections cpus) fields
      { run := none, sanitizers := none, unknown := [] } with
  | .error err => .error err
  | .ok ({ run := none, .. }, _) => .error (missingKey runKey)
  | .ok ({ sanitizers := none, .. }, _) => .error (missingKey sanitizersKey)
  | .ok ({ run := some run, sanitizers := some sanitizers, unknown }, more) =>
    .ok ({ threads := run.threads.getD .processors, timeout := run.timeout
           failOnError := run.failOnError, variantsDir := sanitizers.variantsDir
           buildCommand := sanitizers.buildCommand
           environment := .ofPairs sanitizers.definitions },
      Text.sortedSet (unknown ++ more))

/-- The preferences that a source gives where it gives any, over the defaults. -/
def ofSource (cpus : Nat) (source : Fields) : Except ReadError (Preferences × List Text) :=
  ofFields cpus (Fields.addSource (Fields.addSource [] defaults) source)

end Preferences
end Settings
end TestBench
