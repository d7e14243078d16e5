/-
# The lines of a TOML document

A document is a sequence of statements, one a line.

| statement | written |
| --- | --- |
| header of a table | `[a.b]` |
| header of an element of an array | `[[a.b]]` |
| definition | `a.b = value` |

Comments run from `#` to the end of the line.  Arrays and tables in brackets and braces may go over
several lines and have a comma behind their last part; they nest at most eighty deep.
-/

import TestBench.Toml.Number
import TestBench.Toml.Strings
import TestBench.Toml.Table

namespace TestBench
namespace Toml

/-- A key: the names between its dots. -/
abbrev KeyParts := List Text

/-- One line of a document. -/
inductive Statement where
  | header (key : KeyParts)
  | elementHeader (key : KeyParts)
  | definition (key : KeyParts) (value : Value)
  deriving Repr

/-- A reader of some part: what it reads and what follows, if the text begins with such a part. -/
abbrev PartReader (α : Type) := Text → Option (α × Text)

/-- A character of a key without quotes. -/
def isBareKey (c : Char) : Bool := c.isAlphanum || c = '_' || c = '-'

/-- One name of a key. -/
def keyName? : PartReader Text
  | [] => none
  | c :: s =>
    if c = '"' ∨ c = '\'' then quotedKey? c s
    else if isBareKey c then some ((c :: s).takeWhile isBareKey, (c :: s).dropWhile isBareKey)
    else none

/-- A key of at most `names` names, and the spaces around it. -/
def key? : (names : Nat) → PartReader KeyParts
  | 0, _ => none
  | names + 1, s =>
    match keyName? (skipSpaces s) with
    | none => none
    | some (name, s) =>
      match skipSpaces s with
      | '.' :: s => (key? names s).map fun (rest, s) => (name :: rest, s)
      | s => some ([name], s)

/-- The rest of a text behind a comment; nothing if the comment holds a control character. -/
def skipComment? : Text → Option Text
  | '#' :: s =>
    match s.dropWhile isPlain with
    | [] => some []
    | s => (lineEnd? s).map fun _ => s
  | s => some s

/-- The rest of a text behind blanks, line ends and comments. -/
def skipFiller? : (lines : Nat) → Text → Option Text
  | 0, _ => none
  | lines + 1, s =>
    match skipComment? (skipSpaces s) with
    | none => none
    | some s =>
      match lineEnd? s with
      | some s => skipFiller? lines s
      | none => some s

/-- The rest of a text behind all that may stand between the parts of arrays and tables. -/
def skipAll? (s : Text) : Option Text := skipFiller? (s.length + 1) s

/-- A character of an unquoted value. -/
def isWordChar (c : Char) : Bool :=
  c.isAlphanum || c = '_' || c = '-' || c = '+' || c = '.' || c = ':'

/-- An unquoted text.  A date goes on behind one space if a digit follows there. -/
def word (s : Text) : Text × Text :=
  let first := s.takeWhile isWordChar
  match s.dropWhile isWordChar with
  | ' ' :: c :: rest =>
    if Decimal.isDigit c ∧ (Date.read? first).any (fun (_, behind) => behind = []) then
      (first ++ ' ' :: (c :: rest).takeWhile isWordChar, (c :: rest).dropWhile isWordChar)
    else (first, ' ' :: c :: rest)
  | rest => (first, rest)

/-- Parts with commas between them up to `close`, each read by `part`; at most `count`. -/
def parts? {α : Type} (part : PartReader α) (close : Char) : (count : Nat) → PartReader (List α)
  | 0, _ => none
  | count + 1, s =>
    match skipAll? s with
    | none | some [] => none
    | some (c :: s) =>
      if c = close then some ([], s)
      else
        match part (c :: s) with
        | none => none
        | some (item, s) =>
          match skipAll? s with
          | some (',' :: s) => (parts? part close count s).map fun (items, s) => (item :: items, s)
          | some (c :: s) => if c = close then some ([item], s) else none
          | _ => none

/-- A definition, with values read by `value`. -/
def definition? (value : PartReader Value) : PartReader (KeyParts × Value) := fun s =>
  match key? (s.length + 1) s with
  | some (key, '=' :: s) => (value (skipSpaces s)).map fun (v, s) => ((key, v), s)
  | _ => none

/-- A value whose arrays and tables nest at most `depth` deep. -/
def value? : (depth : Nat) → PartReader Value
  | 0, _ => none
  | _ + 1, [] => none
  | depth + 1, c :: s =>
    if c = '"' ∨ c = '\'' then
      (stringValue? c s).map fun (text, s) => (.scalar (.string text), s)
    else if c = '[' then
      (parts? (value? depth) ']' (s.length + 1) s).map fun (items, s) =>
        (.array .closed items, s)
    else if c = '{' then
      (parts? (definition? (value? depth)) '}' (s.length + 1) s).bind fun (definitions, s) =>
        (Fields.defineAll? [] definitions).map fun fields => (.table .closed fields, s)
    else
      let (text, rest) := word (c :: s)
      (scalarOfText? text).map fun value => (.scalar value, rest)

/-- How deep values may nest. -/
def depthLimit : Nat := 80

/-- A statement on its line, without what may follow it there. -/
def statement? : PartReader Statement
  | '[' :: '[' :: s =>
    match key? (s.length + 1) s with
    | some (key, ']' :: ']' :: s) => some (.elementHeader key, s)
    | _ => none
  | '[' :: s =>
    match key? (s.length + 1) s with
    | some (key, ']' :: s) => some (.header key, s)
    | _ => none
  | s => (definition? (value? (depthLimit + 1)) s).map fun ((key, v), s) => (.definition key v, s)

/-- What follows a line, behind a comment and its end. -/
def nextLine? (s : Text) : Option Text :=
  match skipComment? (skipSpaces s) with
  | none => none
  | some [] => some []
  | some s => lineEnd? s

/-- The statements of a text of at most `lines` lines. -/
def statements? : (lines : Nat) → Text → Option (List Statement)
  | 0, _ => none
  | lines + 1, s =>
    match skipAll? s with
    | none => none
    | some [] => some []
    | some (c :: s) =>
      match statement? (c :: s) with
      | none => none
      | some (statement, s) =>
        match nextLine? s with
        | none => none
        | some s => (statements? lines s).map (statement :: ·)

end Toml
end TestBench
