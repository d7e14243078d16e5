/-
# Building TOML tables

The statements of a document build up one table.  Keys lead through tables that exist or that are made
on the way; how a table came about decides which keys may lead through it (see the kinds of tables).

Nothing is ever defined twice.
-/

import TestBench.Text.Keyed
import TestBench.Toml.Value

namespace TestBench
namespace Toml

/-- The way in which a key leads through tables. -/
inductive Passage where
  /-- As a part of a header. -/
  | header
  /-- As a part of a dotted key. -/
  | dotted
  deriving DecidableEq, Repr

namespace Passage

/-- The kind of the tables that are made on the way. -/
def makes : Passage → TableKind
  | header => .implied
  | dotted => .dotted

/-- The way leads through a table of this kind; `ends` if the key's value is put right into it. -/
def allows : Passage → (ends : Bool) → TableKind → Bool
  | header, _, kind => kind != .closed
  | dotted, true, kind => kind = .dotted
  | dotted, false, kind => kind = .dotted || kind = .implied

/-- The way leads through the last element of an array of this kind. -/
def allowsElement : Passage → (ends : Bool) → ArrayKind → Bool
  | header, _, kind => kind = .headed
  | dotted, ends, kind => kind = .headed && !ends

end Passage

namespace Fields

/-- The fields after `change` was made to the table that `path` leads to. -/
def change? (passage : Passage) (change : Fields → Option Fields) :
    (path : List Text) → Fields → Option Fields
  | [], fields => change fields
  | key :: path, fields =>
    match fields.lookup key with
    | none =>
      (change? passage change path []).map fun inner => Keyed.put key (.table passage.makes inner) fields
    | some (.table kind inner) =>
      if passage.allows path.isEmpty kind then
        (change? passage change path inner).map fun inner => Keyed.put key (.table kind inner) fields
      else none
    | some (.array kind items) =>
      match items.getLast? with
      | some (.table elementKind inner) =>
        if passage.allowsElement path.isEmpty kind then
          (change? passage change path inner).map fun inner =>
            Keyed.put key (.array kind (items.dropLast ++ [.table elementKind inner])) fields
        else none
      | _ => none
    | some (.scalar _) => none

/-- The fields with a new key. -/
def define? (key : Text) (value : Value) (fields : Fields) : Option Fields :=
  match fields.lookup key with
  | none => some (Keyed.put key value fields)
  | some _ => none

/-- The fields after the definition of a dotted key. -/
def defineAt? (key : List Text) (value : Value) (fields : Fields) : Option Fields :=
  match key.getLast? with
  | none => none
  | some last => change? .dotted (define? last value) key.dropLast fields

/-- The fields that definitions make, one after the other. -/
def defineAll? : Fields → List (List Text × Value) → Option Fields
  | fields, [] => some fields
  | fields, (key, value) :: rest => (defineAt? key value fields).bind (defineAll? · rest)

/-- The fields after the header of a table. -/
def openTable? (key : Text) (fields : Fields) : Option Fields :=
  match fields.lookup key with
  | none => some (Keyed.put key (.table .headed []) fields)
  | some (.table .implied inner) => some (Keyed.put key (.table .headed inner) fields)
  | some _ => none

/-- The fields after the header of an array's next element. -/
def openElement? (key : Text) (fields : Fields) : Option Fields :=
  match fields.lookup key with
  | none => some (Keyed.put key (.array .headed [.table .headed []]) fields)
  | some (.array .headed items) => some (Keyed.put key (.array .headed (items ++ [.table .headed []])) fields)
  | some _ => none

end Fields
end Toml
end TestBench
