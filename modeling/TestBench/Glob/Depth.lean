/-
# How deep a pattern nests

The matcher of a pattern is a regular expression over bytes.  A part of it is as deep as the groups,
alternations, repetitions, sequences and bracketed classes that are one inside the other; a byte has
depth 0.

| token | parts, by their depths |
| --- | --- |
| a character | 0, for each of its bytes |
| one byte | 1, a class |
| any number of bytes | 2, a repeated class |
| components first, components between | 4: a group, an alternation, a sequence, a repetition |
| components last | 0 and 1: a slash, and a repetition |
| a class | 1, or 2 if it lists more than one byte or range |
| a group | one more than its branches; no part at all if these are empty |
-/

import TestBench.Glob.Pattern
import TestBench.Text.Utf8

namespace TestBench
namespace Glob

/-- How deep a regular expression may nest. -/
def depthLimit : Nat := 250

/-- The depth of parts that stand side by side: a single one stands for itself. -/
def depthOf : List Nat → Nat
  | [] => 0
  | [part] => part
  | parts => parts.foldl max 0 + 1

/-- How many bytes and ranges of bytes a range of characters is written with: the last byte of its first
character and the first byte of its last one make a range. -/
def itemsOf (range : Char × Char) : Nat :=
  let first := (Utf8.encodeChar range.1).length
  if range.1 = range.2 then first else first + (Utf8.encodeChar range.2).length - 1

/-- The depth of a class of ranges. -/
def classDepth (ranges : List (Char × Char)) : Nat :=
  if (ranges.map itemsOf).foldl (· + ·) 0 ≤ 1 then 1 else 2

mutual

/-- The depths of the parts that a token is written with. -/
def Token.depths : Token → List Nat
  | .literal c => (Utf8.encodeChar c).map fun _ => 0
  | .any => [1]
  | .star => [2]
  | .componentsFirst | .componentsBetween => [4]
  | .componentsLast => [0, 1]
  | .oneOf _ ranges => [classDepth ranges]
  | .group branches =>
    match branchDepths branches with
    | [] => []
    | parts => [depthOf parts + 1]

/-- The depths of the parts that tokens are written with. -/
def tokenDepths : List Token → List Nat
  | [] => []
  | token :: rest => token.depths ++ tokenDepths rest

/-- The depths of the branches of a group that are not empty. -/
def branchDepths : List (List Token) → List Nat
  | [] => []
  | branch :: rest =>
    match tokenDepths branch with
    | [] => branchDepths rest
    | parts => depthOf parts :: branchDepths rest

end

/-- The depth of a pattern: its parts stand in a sequence, between the two ends of the name. -/
def depth : Pattern → Nat
  | [.componentsFirst] => 2
  | pattern => (tokenDepths pattern).foldl max 0 + 1

end Glob
end TestBench
