/-
# Environment variables

Variables have names and values.  Of every name there is one variable; it keeps the place of its first
definition and takes the value of its last.

| variables | names and values are | |
| --- | --- | --- |
| `Environment` | texts | configures sanitizer runtimes; the names are in capitals |
| `Block` | bytes | what a program inherits and what is handed to a test binary |

The variables of an environment are laid over those that a test binary inherits.
-/

import TestBench.Text.Basic
import TestBench.Text.Keyed
import TestBench.Text.Utf8

namespace TestBench
namespace Program

/-- Names and values, in the order of the first definitions; no two variables have one name. -/
structure Variables (α : Type) where
  vars : List (List α × List α)
  nodup : (vars.map Prod.fst).Nodup
  deriving DecidableEq, Repr

namespace Variables

variable {α : Type} [DecidableEq α]

/-- No variables. -/
def empty : Variables α := { vars := [], nodup := List.nodup_nil }

/-- The variables after `name` is set to `value`. -/
def set (env : Variables α) (name value : List α) : Variables α :=
  { vars := Keyed.put name value env.vars, nodup := Keyed.nodup_put env.nodup name value }

/-- The value of a variable. -/
def get? (env : Variables α) (name : List α) : Option (List α) := env.vars.lookup name

/-- The variables after one definition behind the other. -/
def extend (env : Variables α) (pairs : List (List α × List α)) : Variables α :=
  pairs.foldl (fun env (name, value) => env.set name value) env

@[simp] theorem vars_set (env : Variables α) (name value : List α) :
    (env.set name value).vars = Keyed.put name value env.vars := rfl

/-- Setting a variable changes its value and no other. -/
theorem get?_set (env : Variables α) (name value other : List α) :
    (env.set name value).get? other = if other = name then some value else env.get? other :=
  Keyed.lookup_put name value other env.vars

end Variables

/-- The variables that configure sanitizers. -/
abbrev Environment := Variables Char

namespace Environment

/-- The environment of a sequence of definitions: names in capitals, later definitions first. -/
def ofPairs (pairs : List (Text × Text)) : Environment :=
  pairs.foldl (fun env (name, value) => env.set (Text.upperAscii name) value) .empty

/-- The variable that tells a test binary that it runs under test. -/
def marker : Text × Text := ("KTEST".toList, "1".toList)

end Environment

/-- The variables that a program is started with. -/
abbrev Block := Variables UInt8

namespace Block

/-- A name and a value in bytes. -/
def encoded (pair : Text × Text) : Bytes × Bytes := (Utf8.encode pair.1, Utf8.encode pair.2)

/-- The variables of a list of names and values; of one name, the last holds. -/
def ofPairs (pairs : List (Bytes × Bytes)) : Block := Variables.empty.extend pairs

/-- `block` with the variables of `top` set. -/
def overlay (block : Block) (top : Environment) : Block := block.extend (top.vars.map encoded)

/-- The byte between the name and the value of a variable, `=`. -/
def equalsSign : UInt8 := 61

/-- The value of a variable as a program reads it from the entries `name=value` that it is handed. -/
def seen? (block : Block) (name : Bytes) : Option Bytes :=
  block.vars.findSome? fun (n, v) => dropHead? (name ++ [equalsSign]) (n ++ equalsSign :: v)

/-- Some name or value holds a NUL, so that the variables cannot be handed to a program. -/
def hasNul (block : Block) : Bool :=
  block.vars.any fun (n, v) => n.contains 0 || v.contains 0

/-- What a test binary sees: the inherited variables, those for the sanitizers over them, and the
marker over all. -/
def forTest (inherited : Block) (sanitizer : Environment) : Block :=
  let (name, value) := encoded Environment.marker
  (inherited.overlay sanitizer).set name value

end Block
end Program
end TestBench
