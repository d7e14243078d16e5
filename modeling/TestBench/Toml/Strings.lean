/-
# Quoted texts of TOML

| quotes | backslash escapes | lines |
| --- | --- | --- |
| `"…"` | yes | one |
| `'…'` | no | one |
| `"""…"""` | yes, also of line ends | several |
| `'''…'''` | no | several |

Control characters other than tabulation stand only behind escapes.  A line feed right behind the
opening quotes of several lines is left out.  Up to two quotes may stand right before the closing ones.

Each reader is given the text behind the opening quote and returns what is quoted and what follows the
closing quote.
-/

import TestBench.Text.Decimal

namespace TestBench
namespace Toml

/-- A character that may stand in quotes without an escape. -/
def isPlain (c : Char) : Bool := c = '\t' || (32 ≤ c.toNat && c.toNat != 127)

/-- The value of a hexadecimal digit. -/
def hexValue? (c : Char) : Option Nat :=
  if Decimal.isDigit c then some (Decimal.digitValue c)
  else if 'a' ≤ c ∧ c ≤ 'f' then some (c.toNat - 87)
  else if 'A' ≤ c ∧ c ≤ 'F' then some (c.toNat - 55)
  else none

/-- The number of the next `count` hexadecimal digits, continued from `n`, and what follows. -/
def hex? : (count : Nat) → (n : Nat) → Text → Option (Nat × Text)
  | 0, n, s => some (n, s)
  | _ + 1, _, [] => none
  | count + 1, n, c :: s =>
    match hexValue? c with
    | some digit => hex? count (16 * n + digit) s
    | none => none

/-- The character of a number, if it has one. -/
def charOf? (n : Nat) : Option Char := if n.isValidChar then some (Char.ofNat n) else none

/-- The character that the `count` hexadecimal digits at the start of a text denote, and what
follows. -/
def coded? (count : Nat) (s : Text) : Option (Char × Text) :=
  match hex? count 0 s with
  | some (n, s) => (charOf? n).map (·, s)
  | none => none

/-- The character that the text behind a backslash stands for, and what follows. -/
def escape? : Text → Option (Char × Text)
  | [] => none
  | c :: s =>
    match c with
    | 'b' => some ('\x08', s)
    | 't' => some ('\t', s)
    | 'n' => some ('\n', s)
    | 'f' => some ('\x0c', s)
    | 'r' => some ('\r', s)
    | 'e' => some ('\x1b', s)
    | '"' => some ('"', s)
    | '\\' => some ('\\', s)
    | 'x' => coded? 2 s
    | 'u' => coded? 4 s
    | 'U' => coded? 8 s
    | _ => none

/-- The rest of a text behind spaces and tabulations. -/
def skipSpaces (s : Text) : Text := s.dropWhile fun c => c = ' ' || c = '\t'

/-- The rest of a text behind a line end, if it begins with one. -/
def lineEnd? : Text → Option Text
  | '\n' :: s => some s
  | '\r' :: '\n' :: s => some s
  | _ => none

/-- The rest of a text behind spaces, tabulations and line ends. -/
def skipBlankLines (s : Text) : Text :=
  match s with
  | [] => []
  | '\r' :: '\n' :: s => skipBlankLines s
  | c :: s => if c = ' ' ∨ c = '\t' ∨ c = '\n' then skipBlankLines s else c :: s

/-- A text in `quote`s on one line, read in at most `steps` steps. -/
def lineString? (quote : Char) (escapes : Bool) : (steps : Nat) → Text → Option (Text × Text)
  | 0, _ => none
  | _ + 1, [] => none
  | steps + 1, c :: s =>
    if c = quote then some ([], s)
    else if escapes ∧ c = '\\' then
      match escape? s with
      | some (e, s) => (lineString? quote escapes steps s).map fun (text, s) => (e :: text, s)
      | none => none
    else if isPlain c then (lineString? quote escapes steps s).map fun (text, s) => (c :: text, s)
    else none

/-- What the text behind a backslash means in a text of several lines: a character, or nothing for a
line end with the blanks around it; and what follows. -/
def longEscape? (s : Text) : Option (Text × Text) :=
  match lineEnd? (skipSpaces s) with
  | some rest => some ([], skipBlankLines rest)
  | none => (escape? s).map fun (c, s) => ([c], s)

/-- How many quotes stand at the start of a text, at most five. -/
def quoteRun (quote : Char) (s : Text) : Nat := ((s.take 5).takeWhile (· = quote)).length

/-- A text in three `quote`s on several lines, read in at most `steps` steps. -/
def longString? (quote : Char) (escapes : Bool) : (steps : Nat) → Text → Option (Text × Text)
  | 0, _ => none
  | _ + 1, [] => none
  | steps + 1, c :: s =>
    if c = quote then
      let run := quoteRun quote (c :: s)
      if 3 ≤ run then some (List.replicate (run - 3) quote, (c :: s).drop run)
      else (longString? quote escapes steps s).map fun (text, s) => (c :: text, s)
    else if escapes ∧ c = '\\' then
      match longEscape? s with
      | some (e, s) => (longString? quote escapes steps s).map fun (text, s) => (e ++ text, s)
      | none => none
    else match lineEnd? (c :: s) with
      | some rest =>
        (longString? quote escapes steps rest).map fun (text, s) =>
          (if c = '\r' then '\r' :: '\n' :: text else '\n' :: text, s)
      | none =>
        if isPlain c then (longString? quote escapes steps s).map fun (text, s) => (c :: text, s)
        else none

/-- A key in quotes. -/
def quotedKey? (quote : Char) (s : Text) : Option (Text × Text) :=
  lineString? quote (quote = '"') (s.length + 1) s

/-- A string value, given from behind its first quote. -/
def stringValue? (quote : Char) (s : Text) : Option (Text × Text) :=
  let escapes := quote = '"'
  match s with
  | a :: b :: rest =>
    if a = quote ∧ b = quote then
      let body := (lineEnd? rest).getD rest
      longString? quote escapes (body.length + 1) body
    else lineString? quote escapes (s.length + 1) s
  | s => lineString? quote escapes (s.length + 1) s

end Toml
end TestBench
