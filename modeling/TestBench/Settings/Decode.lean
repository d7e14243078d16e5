/-
# Reading settings

How the values of settings become what the program works with.

| kind | taken from |
| --- | --- |
| truth | a boolean, a number (zero is false), or one of the words `true`, `yes`, `on`, `1`, `false`, `no`, `off`, `0` in any case |
| text | a string, a number or a boolean |
| section | a table; or a list, which gives the values of the section's keys in order |

A complaint names the key that it is about, and the origin of the value if the value is known to be of
the wrong kind.  Keys that a section does not have are collected and otherwise ignored.
-/

import TestBench.Duration.Reader
import TestBench.Program.Environment
import TestBench.Settings.Threads
import TestBench.Settings.Value
import TestBench.Text.Lowercase
import TestBench.Text.Quoted

namespace TestBench
namespace Settings

/-- A value that cannot be read. -/
structure ReadError where
  /-- What is wrong with it. -/
  complaint : Text
  /-- The key that leads to it from where it was met. -/
  key : Option Text
  /-- Where it comes from. -/
  origin : Option Text
  deriving DecidableEq, Repr

namespace ReadError

/-- What is said of a value that cannot be read. -/
def message (err : ReadError) : Text :=
  err.complaint
    ++ (match err.key with
      | some key => " for key ".toList ++ Text.quoted key
      | none => [])
    ++ (match err.origin with
      | some origin => " in ".toList ++ origin
      | none => [])

/-- A key continued by another one. -/
def joinKeys (first rest : Text) : Text :=
  if rest = [] ∨ rest.head? = some '[' then first ++ rest else first ++ '.' :: rest

/-- The error as it is seen from the table or list that holds the value under `key`. -/
def under (key : Text) (err : ReadError) : ReadError :=
  { err with key := some (match err.key with
      | some rest => joinKeys key rest
      | none => key) }

/-- The error as it is seen from the list that holds the value at `index`. -/
def underItem (index : Nat) (err : ReadError) : ReadError :=
  err.under ('[' :: Decimal.write index ++ [']'])

end ReadError

namespace Value

/-- A value as it is spoken of. -/
def describe : Value → Text
  | plain _ .nothing => "unit value".toList
  | plain _ (.boolean b) => "boolean ".toList ++ Text.quoted (if b then "true".toList else "false".toList)
  | plain _ (.integer n) => "integer ".toList ++ Text.quoted (Decimal.writeInt n)
  | plain _ (.float x) => "floating point ".toList ++ Text.quoted x.writePointed
  | plain _ (.string text) => "string ".toList ++ Text.inQuotes text
  | list _ _ => "sequence".toList
  | table _ _ => "map".toList

/-- A value of another kind than `expected`. -/
def wrongKind (value : Value) (expected : Text) (origin : Option Text) : ReadError :=
  { complaint := "invalid type: ".toList ++ value.describe ++ ", expected ".toList ++ expected
    key := none, origin }

/-- A value of the right kind that is none of `expected`. -/
def wrongValue (value : Value) (expected : Text) : ReadError :=
  { complaint := "invalid value: ".toList ++ value.describe ++ ", expected ".toList ++ expected
    key := none, origin := none }

/-- The words for true. -/
def trueWords : List Text := ["1".toList, "true".toList, "on".toList, "yes".toList]

/-- The words for false. -/
def falseWords : List Text := ["0".toList, "false".toList, "off".toList, "no".toList]

/-- A truth value. -/
def toBool (value : Value) : Except ReadError Bool :=
  match value with
  | plain _ (.boolean b) => .ok b
  | plain _ (.integer n) => .ok (n != 0)
  | plain _ (.float x) => .ok (!x.isZero)
  | plain origin (.string text) =>
    let word := Text.lowercase text
    if trueWords.contains word then .ok true
    else if falseWords.contains word then .ok false
    else .error (wrongKind (plain origin (.string word)) "a boolean".toList origin)
  | value => .error (value.wrongKind "a boolean".toList value.origin?)

/-- A text. -/
def toText (value : Value) : Except ReadError Text :=
  match value with
  | plain _ (.string text) => .ok text
  | plain _ (.boolean b) => .ok (if b then "true".toList else "false".toList)
  | plain _ (.integer n) => .ok (Decimal.writeInt n)
  | plain _ (.float x) => .ok x.write
  | value => .error (value.wrongKind "a string".toList value.origin?)

/-- A value that may be missing, read by `read`. -/
def toOption {α : Type} (read : Value → Except ReadError α) (value : Value) :
    Except ReadError (Option α) :=
  match value with
  | plain _ .nothing => .ok none
  | value => (read value).map some

/-- A duration, written as a text. -/
def toDuration (value : Value) : Except ReadError Duration :=
  value.toText.bind fun text =>
    match Duration.ofText? text with
    | some d => .ok d
    | none => .error (wrongValue (plain none (.string text)) "a duration".toList)

/-- What a number of binaries may be. -/
def threadsExpected : Text := "a non-zero integer or the string \"num-cpus\"".toList

/-- A number of binaries on a machine with `cpus` processors.  The integers of a file are words of 64 bits, and
nothing else is converted to a number of binaries. -/
def toThreads (cpus : Nat) (value : Value) : Except ReadError Threads :=
  match value with
  | plain _ (.integer n) =>
    match Threads.ofInteger? (.ofNat cpus) (.ofInt n) with
    | some threads => .ok threads
    | none => .error (value.wrongValue threadsExpected)
  | plain _ (.string text) =>
    if text = Threads.processorsWord then .ok .processors
    else .error (value.wrongValue threadsExpected)
  | value => .error (value.wrongKind threadsExpected none)

/-- The texts of a table's fields. -/
def toTexts : Fields → Except ReadError (List (Text × Text))
  | [] => .ok []
  | (key, value) :: rest =>
    match value.toText with
    | .error err => .error (err.under key)
    | .ok text => (toTexts rest).map ((key, text) :: ·)

/-- The definitions of an environment. -/
def toDefinitions (value : Value) : Except ReadError (List (Text × Text)) :=
  match value with
  | table _ fields => toTexts fields
  | value => .error (value.wrongKind "a map".toList none)

end Value

/-- A key of a section, with what its value does to the section's record. -/
structure Slot (σ : Type) where
  key : Text
  read : Value → σ → Except ReadError σ

/-- The slot of a value that `read` reads and `store` stores. -/
def Slot.of {σ α : Type} (key : Text) (read : Value → Except ReadError α) (store : α → σ → σ) :
    Slot σ :=
  { key, read := fun value record => (read value).map (store · record) }

namespace Section

/-- A record after the values of a table's fields were read, and the keys that have no slot. -/
def readFields {σ : Type} (slots : List (Slot σ)) : Fields → σ → Except ReadError (σ × List Text)
  | [], record => .ok (record, [])
  | (key, value) :: rest, record =>
    match slots.find? fun slot => slot.key = key with
    | none => (readFields slots rest record).map fun (record, unknown) => (record, key :: unknown)
    | some slot =>
      match slot.read value record with
      | .error err => .error (err.under key)
      | .ok record => readFields slots rest record

/-- A record after the items of a list were read, one for each slot. -/
def readItems {σ : Type} : (place : Nat) → List (Slot σ) → List Value → σ → Except ReadError σ
  | place, slot :: slots, item :: items, record =>
    match slot.read item record with
    | .error err => .error (err.underItem place)
    | .ok record => readItems (place + 1) slots items record
  | _, _, _, record => .ok record

/-- A section's record, and the keys of the section that have no slot. -/
def read {σ : Type} (name : Text) (slots : List (Slot σ)) (record : σ) (value : Value) :
    Except ReadError (σ × List Text) :=
  match value with
  | .table _ fields => readFields slots fields record
  | .list _ items => (readItems 0 slots items record).map (·, [])
  | value => .error (value.wrongKind ("struct ".toList ++ name) none)

end Section
end Settings
end TestBench
