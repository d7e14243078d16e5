/-
# Blank characters

The characters that separate words without being seen: the White_Space property of the Unicode
character database, twenty-five characters, closed since 2014.
-/

import TestBench.Text.Basic

namespace TestBench
namespace Text

/-- A blank character: tabulation to carriage return, space, next line, no-break space, the ogham
space, the spaces of general punctuation, the two separators and the ideographic space. -/
def isBlank (c : Char) : Bool :=
  let n := c.toNat
  (0x09 ≤ n && n ≤ 0x0D) || n == 0x20 || n == 0x85 || n == 0xA0 || n == 0x1680
    || (0x2000 ≤ n && n ≤ 0x200A) || n == 0x2028 || n == 0x2029 || n == 0x202F || n == 0x205F
    || n == 0x3000

/-- `text` without the blank characters it begins with. -/
def trimLeft (text : Text) : Text := text.dropWhile isBlank

/-- `text` without the blank characters it begins and ends with. -/
def trim (text : Text) : Text := (trimLeft (trimLeft text).reverse).reverse

end Text
end TestBench
