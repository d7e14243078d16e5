/-
# The pattern for names of test binaries

A pattern as it is written, with what it means.  Its matcher is a regular expression, which cannot be put
together if its parts are nested too deep.
-/

import TestBench.Glob.Depth
import TestBench.Glob.Match

namespace TestBench
namespace Glob

/-- A pattern for file names. -/
structure NamePattern where
  /-- The pattern as it is written. -/
  text : Text
  pattern : Pattern

/-- A text that is no pattern. -/
structure PatternError where
  text : Text
  fault : Fault
  deriving DecidableEq, Repr

namespace PatternError

/-- What is said of a text that is no pattern. -/
def message (err : PatternError) : Text := "invalid filename pattern ".toList ++ Text.quoted err.text

/-- Why it is no pattern. -/
def causes (err : PatternError) : List Text :=
  ["error parsing glob '".toList ++ err.text ++ "': ".toList ++ err.fault.message]

end PatternError

namespace NamePattern

/-- The pattern that a text describes. -/
def ofText (text : Text) : Except PatternError NamePattern :=
  match parse text with
  | .ok pattern => .ok { text, pattern }
  | .error fault => .error { text, fault }

/-- The regular expression of the pattern is not nested too deep. -/
def isShallow (p : NamePattern) : Bool := depth p.pattern ≤ depthLimit

/-- The pattern matches a file name. -/
def isMatch (p : NamePattern) (name : Text) : Bool := p.pattern.isMatch (Utf8.encode name)

end NamePattern
end Glob
end TestBench
