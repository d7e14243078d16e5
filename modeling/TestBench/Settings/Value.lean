/-
# Values of settings

What a source of settings says: plain values, lists and tables.  A value may know its origin, the
source that it comes from, so that a complaint about it can name the place.  A table that several
sources have a part in has no origin.
-/

import TestBench.Toml.Document

namespace TestBench
namespace Settings

/-- A value without parts. -/
inductive Plain where
  /-- The place of a value that no source gives. -/
  | nothing
  | boolean (b : Bool)
  | integer (n : Int)
  | float (x : Numeric.FloatNumber)
  | string (text : Text)
  deriving DecidableEq, Repr

/-- A value of settings. -/
inductive Value where
  | plain (origin : Option Text) (value : Plain)
  | list (origin : Option Text) (items : List Value)
  | table (origin : Option Text) (fields : List (Text × Value))
  deriving Repr

/-- Settings by their keys. -/
abbrev Fields := List (Text × Value)

namespace Plain

/-- The plain value that a TOML value without parts stands for.  Moments count as texts. -/
def ofScalar : Toml.Scalar → Plain
  | .string text => string text
  | .integer n => integer n
  | .float x => float x
  | .boolean b => boolean b
  | .moment m => string m.write

end Plain

namespace Value

/-- The place of a value that no source gives. -/
def missing : Value := plain none .nothing

/-- Where a value comes from. -/
def origin? : Value → Option Text
  | plain origin _ => origin
  | list origin _ => origin
  | table origin _ => origin

/-- The fields of a table; any other value has none. -/
def fields : Value → Fields
  | table _ fields => fields
  | _ => []

/-- The items of a list; any other value has none. -/
def items : Value → List Value
  | list _ items => items
  | _ => []

/-- The origin of a table. -/
def tableOrigin? : Value → Option Text
  | table origin _ => origin
  | _ => none

/-- The origin of a list. -/
def listOrigin? : Value → Option Text
  | list origin _ => origin
  | _ => none

mutual

/-- The value that a TOML value from `origin` stands for. -/
def ofToml (origin : Option Text) : Toml.Value → Value
  | .scalar value => plain origin (.ofScalar value)
  | .array _ items => list origin (listOfToml origin items)
  | .table _ fields => table origin (fieldsOfToml origin fields)

/-- The values that TOML values from `origin` stand for. -/
def listOfToml (origin : Option Text) : List Toml.Value → List Value
  | [] => []
  | item :: items => ofToml origin item :: listOfToml origin items

/-- The settings that the fields of a TOML table from `origin` stand for. -/
def fieldsOfToml (origin : Option Text) : List (Text × Toml.Value) → Fields
  | [] => []
  | (key, value) :: fields => (key, ofToml origin value) :: fieldsOfToml origin fields

end

mutual

/-- `below` with `above` laid over it: tables are merged key by key, and any other value replaces
what is below it. -/
def overlay : (above : Value) → (below : Value) → Value
  | table _ fields, below => table below.tableOrigin? (overlayFields fields below.fields)
  | plain origin value, _ => plain origin value
  | list origin items, _ => list origin items

/-- The fields `below` with the fields `above` laid over them, one after the other. -/
def overlayFields : (above : List (Text × Value)) → (below : Fields) → Fields
  | [], below => below
  | (key, value) :: above, below =>
    overlayFields above (Keyed.put key (overlay value ((below.lookup key).getD missing)) below)

end

end Value
end Settings
end TestBench
