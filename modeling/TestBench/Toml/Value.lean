/-
# TOML values

What a TOML document holds.  A table remembers how it came about, since that decides how it may be
continued further down in the document:

| kind | came about | continued by headers | continued by dotted keys |
| --- | --- | --- | --- |
| closed | written between braces | no | no |
| implied | on the way to a header | yes, once | on the way to another table |
| headed | by its own header | no | no |
| dotted | on the way of a dotted key | on the way to another table | yes |

The same holds of arrays: one that is written between brackets is closed, one whose elements have
headers grows by further headers.
-/

import TestBench.Numeric.FloatNumber
import TestBench.Toml.Moment

namespace TestBench
namespace Toml

/-- How a table came about. -/
inductive TableKind where
  | closed
  | implied
  | headed
  | dotted
  deriving DecidableEq, Repr

/-- How an array came about. -/
inductive ArrayKind where
  | closed
  | headed
  deriving DecidableEq, Repr

/-- A value without parts. -/
inductive Scalar where
  | string (text : Text)
  | integer (n : Int)
  | float (x : Numeric.FloatNumber)
  | boolean (b : Bool)
  | moment (m : Moment)
  deriving DecidableEq, Repr

/-- A value. -/
inductive Value where
  | scalar (value : Scalar)
  | array (kind : ArrayKind) (items : List Value)
  | table (kind : TableKind) (fields : List (Text × Value))
  deriving Repr

/-- The keys of a table with their values, in the order of the document. -/
abbrev Fields := List (Text × Value)

end Toml
end TestBench
