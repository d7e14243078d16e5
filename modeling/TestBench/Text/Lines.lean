/-
# Lines

A line ends at a line feed, and a carriage return before the line feed belongs to the line end.  What
stands after the last line feed is a line too, unless it is empty; a carriage return at its end is
part of it.
-/

import TestBench.Text.Basic

namespace TestBench
namespace Text

/-- The lines that begin with `c` put before the first of `lines`. -/
def extendFirst (c : Char) : List Text → List Text
  | [] => [[c]]
  | line :: rest => (c :: line) :: rest

/-- The lines of a text. -/
def lines : Text → List Text
  | [] => []
  | '\n' :: s => [] :: lines s
  | '\r' :: '\n' :: s => [] :: lines s
  | c :: s => extendFirst c (lines s)

example : lines "a\r\nb\r\r\n\nc\r".toList = ["a".toList, "b\r".toList, [], "c\r".toList] := by
  decide

end Text
end TestBench
