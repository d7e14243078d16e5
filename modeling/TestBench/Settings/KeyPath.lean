/-
# Key paths

The keys at the top of a source of settings may lead into the settings: `run.timeout` is the key
`timeout` of the table `run`, and `a[1]` the second item of the list `a`.

| part | written | leads |
| --- | --- | --- |
| name | letters, digits, `_`, `-` | to the value of the key |
| item | `[n]` | to the item `n` of a list, from its end if `n` is negative |

A way that does not exist is made: values that are no table or no list give way to an empty one, and
lists are filled up with missing values.
-/

import TestBench.Settings.Value

namespace TestBench
namespace Settings

/-- A part of a key path behind its first name. -/
inductive Step where
  | key (name : Text)
  | item (index : Int)
  deriving DecidableEq, Repr

/-- A way into the settings. -/
structure KeyPath where
  root : Text
  steps : List Step
  deriving DecidableEq, Repr

namespace KeyPath

/-- A character of a name. -/
def isNameChar (c : Char) : Bool := c.isAlphanum || c = '_' || c = '-'

/-- The name at the start of a text, and what follows. -/
def name? (s : Text) : Option (Text × Text) :=
  match s.takeWhile isNameChar with
  | [] => none
  | name => some (name, s.dropWhile isNameChar)

/-- The number between brackets, blanks around it allowed. -/
def index? (s : Text) : Option Int :=
  let inner := ((Toml.skipSpaces s).reverse.dropWhile fun c => c = ' ' || c = '\t').reverse
  if inner.head? = some '+' then none
  else (Decimal.readInt? inner).bind Toml.boundedInteger?

/-- The steps that a text of at most `count` steps writes. -/
def steps? : (count : Nat) → Text → Option (List Step)
  | _, [] => some []
  | 0, _ => none
  | count + 1, '.' :: s =>
    match name? s with
    | some (name, s) => (steps? count s).map (.key name :: ·)
    | none => none
  | count + 1, '[' :: s =>
    match splitAtFirst? (· = ']') s with
    | some (inner, s) =>
      match index? inner, steps? count s with
      | some index, some steps => some (.item index :: steps)
      | _, _ => none
    | none => none
  | _, _ => none

/-- The key path that a text writes. -/
def ofText? (s : Text) : Option KeyPath :=
  match name? s with
  | some (root, rest) => (steps? rest.length rest).map fun steps => { root, steps }
  | none => none

/-- The way that a key at the top of a source leads: along the path that it writes, or to the key
itself. -/
def ofKey (key : Text) : KeyPath := (ofText? key).getD { root := key, steps := [] }

end KeyPath

/-- A list that has an item at an index, and the place of that item. -/
def reachItem (index : Int) (items : List Value) : List Value × Nat :=
  match index with
  | .ofNat n => (items ++ List.replicate (n + 1 - items.length) .missing, n)
  | .negSucc n =>
    if n < items.length then (items, items.length - 1 - n)
    else (List.replicate (n + 1 - items.length) .missing ++ items, 0)

namespace Value

/-- The value after `change` was made to what the steps lead to. -/
def changeAt (change : Value → Value) : List Step → Value → Value
  | [], value => change value
  | .key name :: steps, value =>
    table value.tableOrigin?
      (Keyed.put name (changeAt change steps ((value.fields.lookup name).getD missing)) value.fields)
  | .item index :: steps, value =>
    let (items, place) := reachItem index value.items
    list value.listOrigin? (items.set place (changeAt change steps (items.getD place missing)))

end Value

namespace Fields

/-- The settings with one entry of a source laid over them. -/
def addEntry (below : Fields) (key : Text) (value : Value) : Fields :=
  let path := KeyPath.ofKey key
  Keyed.put path.root
    (((below.lookup path.root).getD .missing).changeAt (Value.overlay value) path.steps) below

/-- The settings with a whole source laid over them. -/
def addSource (below : Fields) (source : Fields) : Fields :=
  source.foldl (fun below (key, value) => below.addEntry key value) below

end Fields
end Settings
end TestBench
