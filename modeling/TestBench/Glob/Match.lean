/-
# Matching names against patterns

A token takes some bytes from the front of a name, and a star may take more or fewer; so a pattern can
stand at several places of the name at once.  The places are kept as marks, one before each byte of
the name and one behind the last.  A token moves the marks in one pass over the name, and a pattern
matches if its tokens, one after the other, can move the first mark to the last place.

| token | where the marks go |
| --- | --- |
| one byte | behind the next byte, if it fits |
| any number of bytes | to all places up to the first byte that does not fit |
| components first | they stay, and go behind every later slash |
| components last | behind the next byte, if it is a slash, and to all later places |
| components between | behind the next byte, if it is a slash, and behind every later slash |
| group | wherever a branch moves them |
-/

import TestBench.Glob.Pattern
import TestBench.Text.Utf8

namespace TestBench
namespace Glob

/-- The places of a name where a pattern can stand: before each byte, and behind the last. -/
abbrev Marks := List Bool

namespace Marks

/-- The place before the first byte of `name`. -/
def first (name : Bytes) : Marks := true :: name.map fun _ => false

/-- Every mark goes behind the byte that follows it, if that byte satisfies `p`. -/
def advance (p : UInt8 → Bool) (name : Bytes) (marks : Marks) : Marks :=
  false :: List.zipWith (fun b mark => mark && p b) name marks

/-- Every mark spreads over the bytes that satisfy `p`; `carry` is the mark that reaches the first
place from the left. -/
def spreadFrom (p : UInt8 → Bool) : (carry : Bool) → Bytes → Marks → Marks
  | carry, b :: name, mark :: marks =>
    let here := carry || mark
    here :: spreadFrom p (here && p b) name marks
  | carry, [], mark :: _ => [carry || mark]
  | _, _, [] => []

/-- Every mark spreads to the right over the bytes that satisfy `p`. -/
def spread (p : UInt8 → Bool) (name : Bytes) (marks : Marks) : Marks :=
  spreadFrom p false name marks

/-- The places of either. -/
def union (a b : Marks) : Marks := List.zipWith (· || ·) a b

/-- The place behind the last byte is marked. -/
def reachesEnd (marks : Marks) : Bool := marks.getLastD false

end Marks

/-- The byte of the slash. -/
def slash : UInt8 := 47

/-- The bytes that a range of characters lists inside a class: the bytes of both ends, and what lies
between the last byte of the first end and the first byte of the last end. -/
def rangeBytes (first last : Char) : List (UInt8 × UInt8) :=
  let single (bytes : Bytes) := bytes.map fun b => (b, b)
  let firstBytes := Utf8.encodeChar first
  let lastBytes := Utf8.encodeChar last
  if first = last then single firstBytes
  else
    single firstBytes.dropLast
      ++ [(firstBytes.getLastD 0, lastBytes.headD 0)]
      ++ single lastBytes.tail

/-- The byte is listed by one of the ranges. -/
def isListed (ranges : List (Char × Char)) (b : UInt8) : Bool :=
  (ranges.flatMap fun (first, last) => rangeBytes first last).any fun (low, high) =>
    low ≤ b && b ≤ high

mutual

/-- The token takes nothing from any name, since it is a group without a branch that could. -/
def Token.isBlank : Token → Bool
  | .group branches => branchesBlank branches
  | _ => false

/-- All tokens of a branch are blank. -/
def branchBlank : List Token → Bool
  | [] => true
  | token :: rest => token.isBlank && branchBlank rest

/-- All branches of a group are blank. -/
def branchesBlank : List (List Token) → Bool
  | [] => true
  | branch :: rest => branchBlank branch && branchesBlank rest

end

mutual

/-- Where a token moves the marks on `name`.  Blank branches of a group do not count, unless all
are. -/
def Token.move (name : Bytes) : Token → Marks → Marks
  | .literal c, marks =>
    (Utf8.encodeChar c).foldl (fun marks b => Marks.advance (· == b) name marks) marks
  | .any, marks => Marks.advance (· != slash) name marks
  | .star, marks => Marks.spread (· != slash) name marks
  | .componentsFirst, marks =>
    marks.union (Marks.advance (· == slash) name (Marks.spread (fun _ => true) name marks))
  | .componentsLast, marks =>
    Marks.spread (fun _ => true) name (Marks.advance (· == slash) name marks)
  | .componentsBetween, marks =>
    let behind := Marks.advance (· == slash) name marks
    behind.union (Marks.advance (· == slash) name (Marks.spread (fun _ => true) name behind))
  | .oneOf negated ranges, marks => Marks.advance (fun b => isListed ranges b != negated) name marks
  | .group branches, marks =>
    if branchesBlank branches then marks
    else moveBranches name branches marks

/-- Where the tokens, one after the other, move the marks. -/
def movePattern (name : Bytes) : List Token → Marks → Marks
  | [], marks => marks
  | token :: rest, marks => movePattern name rest (token.move name marks)

/-- Where the branches that are not blank move the marks. -/
def moveBranches (name : Bytes) : List (List Token) → Marks → Marks
  | [], marks => marks.map fun _ => false
  | branch :: rest, marks =>
    if branchBlank branch then moveBranches name rest marks
    else (movePattern name branch marks).union (moveBranches name rest marks)

end

namespace Pattern

/-- The pattern matches a name.  Components alone match every name. -/
def isMatch (pattern : Pattern) (name : Bytes) : Bool :=
  match pattern with
  | [.componentsFirst] => true
  | _ => (movePattern name pattern (Marks.first name)).reachesEnd

end Pattern
end Glob
end TestBench
