/-
# Words of a command line

How a command line falls into words, and how words are quoted so that they are read back unchanged.

| written | read as |
| --- | --- |
| space, tabulation, line feed | the end of a word |
| `'…'` | what stands between the quotes |
| `"…"` | the same, but a backslash quotes a dollar sign, backquote, double quote or backslash, and removes a line feed |
| `\c` | the character `c`; a line feed is removed |
| `#` at the start of a word | a comment, up to the end of the line |

An open quote at the end is an error.  A lone backslash at the end stands for itself.
-/

import TestBench.Text.Basic

namespace TestBench
namespace Shell

/-- Where the reader of a command line stands.  A word that is being read is given, last character
first. -/
inductive Place where
  /-- Between words. -/
  | between
  /-- Behind a backslash that begins a word. -/
  | firstEscape
  /-- In a word, outside of quotes. -/
  | plain (word : Text)
  /-- Behind a backslash in a word, outside of quotes. -/
  | plainEscape (word : Text)
  /-- Between single quotes. -/
  | single (word : Text)
  /-- Between double quotes. -/
  | double (word : Text)
  /-- Behind a backslash between double quotes. -/
  | doubleEscape (word : Text)
  /-- In a comment. -/
  | comment
  deriving DecidableEq, Repr

/-- A character that ends a word. -/
def isSeparator (c : Char) : Bool := c = ' ' || c = '\t' || c = '\n'

/-- A character that a backslash quotes between double quotes. -/
def isDoubleEscapable (c : Char) : Bool := c = '$' || c = '`' || c = '"' || c = '\\'

namespace Place

/-- The place behind the next character, and the word that the character ends. -/
def step (place : Place) (c : Char) : Place × Option Text :=
  match place with
  | between =>
    if c = '\'' then (single [], none)
    else if c = '"' then (double [], none)
    else if c = '\\' then (firstEscape, none)
    else if isSeparator c then (between, none)
    else if c = '#' then (comment, none)
    else (plain [c], none)
  | firstEscape => if c = '\n' then (between, none) else (plain [c], none)
  | plain word =>
    if c = '\'' then (single word, none)
    else if c = '"' then (double word, none)
    else if c = '\\' then (plainEscape word, none)
    else if isSeparator c then (between, some word.reverse)
    else (plain (c :: word), none)
  | plainEscape word => if c = '\n' then (plain word, none) else (plain (c :: word), none)
  | single word => if c = '\'' then (plain word, none) else (single (c :: word), none)
  | double word =>
    if c = '"' then (plain word, none)
    else if c = '\\' then (doubleEscape word, none)
    else (double (c :: word), none)
  | doubleEscape word =>
    if c = '\n' then (double word, none)
    else if isDoubleEscapable c then (double (c :: word), none)
    else (double (c :: '\\' :: word), none)
  | comment => if c = '\n' then (between, none) else (comment, none)

/-- The word that the end of the command line ends; nothing inside of quotes. -/
def finish? : Place → Option (Option Text)
  | between | comment => some none
  | firstEscape => some (some ['\\'])
  | plain word => some (some word.reverse)
  | plainEscape word => some (some ('\\' :: word).reverse)
  | single _ | double _ | doubleEscape _ => none

end Place

/-- The words from a place on; nothing if the line ends inside of quotes. -/
def splitFrom? : Place → Text → Option (List Text)
  | place, [] => place.finish?.map Option.toList
  | place, c :: s =>
    let (place', word?) := place.step c
    (splitFrom? place' s).map (word?.toList ++ ·)

/-- The words of a command line; nothing if it ends inside of quotes. -/
def split? (line : Text) : Option (List Text) := splitFrom? .between line

/-- A character that makes a word need quotes. -/
def needsQuotes (c : Char) : Bool :=
  "|&;<>()$`\\\"' \t\n*?[#~=%".toList.contains c

/-- A character between single quotes; a quote itself stands behind a backslash outside of them. -/
def quoteChar (c : Char) : Text := if c = '\'' then "'\\''".toList else [c]

/-- A word as it is written in a command line: as it is if it is not empty and has no special
character, and between single quotes otherwise. -/
def quote (word : Text) : Text :=
  if word ≠ [] ∧ !word.any needsQuotes then word
  else '\'' :: word.flatMap quoteChar ++ ['\'']

/-- Words as a command line. -/
def join (words : List Text) : Text := joinWith " ".toList (words.map quote)

example : split? "a 'b c' \"d\\\"e\" f\\ g # h".toList
    = some ["a".toList, "b c".toList, "d\"e".toList, "f g".toList] := by decide

example : join ["a b".toList, [], "it's".toList] = "'a b' '' 'it'\\''s'".toList := by decide

end Shell
end TestBench
