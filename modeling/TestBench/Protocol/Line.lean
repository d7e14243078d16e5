/-
# Lines of the log protocol

A test binary reports on its standard output, one line per event:

    LOCATION:LINE:FIELD:FIELD
    LOCATION:LINE:FIELD:FIELD:MESSAGE

| part | what it is |
| --- | --- |
| `LOCATION` | the source file; not empty, no line feed, colons allowed |
| `LINE` | the line in it: decimal digits, below 2^32 |
| `FIELD` | one is a keyword, the other the name of the check; no colon; blanks around it are dropped |
| `MESSAGE` | free text up to the end, no line feed; blanks before it are dropped |

The keywords are `IGNORE`, `PASS` and `FAIL`, which close a case, and `INFO`, which annotates the case
that follows.  If both fields are keywords the first one is the keyword.

A line can be cut in several ways when the location or the message holds colons.  The cut with the
shortest location counts, even where only a longer one would give a number or a keyword.
-/

import TestBench.Text.Blank
import TestBench.Text.Decimal
import TestBench.Text.Digit

namespace TestBench
namespace Protocol

/-- How a case ended. -/
inductive Status where
  | ignore
  | pass
  | fail
  deriving DecidableEq, Repr

namespace Status

/-- The keyword of a status, which is also what a report shows. -/
def text : Status → Text
  | ignore => "IGNORE".toList
  | pass => "PASS".toList
  | fail => "FAIL".toList

/-- The place of a status in a report: failures come last. -/
def rank : Status → Nat
  | ignore => 0
  | pass => 1
  | fail => 2

end Status

/-- What a line does: close a case, or annotate the next one. -/
inductive Kind where
  | closing (status : Status)
  | info
  deriving DecidableEq, Repr

namespace Kind

/-- The keyword of a kind. -/
def keyword : Kind → Text
  | closing status => status.text
  | info => "INFO".toList

/-- The kind whose keyword a field is. -/
def ofKeyword? (field : Text) : Option Kind :=
  [closing .ignore, closing .pass, closing .fail, info].find? fun kind => kind.keyword = field

theorem ofKeyword?_keyword (kind : Kind) : ofKeyword? kind.keyword = some kind := by
  cases kind with
  | info => decide
  | closing status => cases status <;> decide

theorem keyword_of_ofKeyword? {field : Text} {kind : Kind} (h : ofKeyword? field = some kind) :
    field = kind.keyword := by
  have := List.find?_some h
  simpa using (of_decide_eq_true this).symm

end Kind

/-- The parts of a line behind its location, as they are written. -/
structure Fields where
  number : Text
  first : Text
  second : Text
  message : Option Text
  deriving DecidableEq, Repr

namespace Fields

/-- The fields of a line, given what follows the colon behind its location: a number and two fields
without colon, and a message if there is a fourth colon. -/
def ofText? (s : Text) : Option Fields :=
  let (number, s₁) := s.span Text.isDecimalDigit
  if number = [] then none
  else match s₁ with
    | ':' :: s₂ =>
      let (first, s₃) := s₂.span (· != ':')
      match s₃ with
      | _ :: s₄ =>
        let (second, s₅) := s₄.span (· != ':')
        match s₅ with
        | [] => some { number, first, second, message := none }
        | _ :: s₆ =>
          let message := Text.trimLeft s₆
          if '\n' ∈ message then none else some { number, first, second, message := some message }
      | [] => none
    | _ => none

end Fields

/-- The shortest location of a line and its fields. -/
def locate? : Text → Option (Text × Fields)
  | [] => none
  | c :: s =>
    if c = '\n' then none
    else
      let fields? := match s with
        | ':' :: s' => Fields.ofText? s'
        | _ => none
      match fields? with
      | some fields => some ([c], fields)
      | none => (locate? s).map fun (location, fields) => (c :: location, fields)

/-- A line of the protocol. -/
structure Line where
  /-- The source file that the line names. -/
  location : Text
  /-- The line in that file. -/
  number : Nat
  /-- The name of the check. -/
  name : Text
  kind : Kind
  /-- The message, if it is not empty. -/
  message : Option Text
  deriving DecidableEq, Repr

namespace Line

/-- Line numbers are below this bound, `2 ^ 32`. -/
def numberBound : Nat := 0x100000000

/-- The value of a line number: ASCII digits, below the bound. -/
def readNumber? (s : Text) : Option Nat := (Decimal.read? s).filter (· < numberBound)

/-- The kind and the name that two trimmed fields give. -/
def readFields? (first second : Text) : Option (Kind × Text) :=
  match Kind.ofKeyword? first with
  | some kind => some (kind, second)
  | none => (Kind.ofKeyword? second).map fun kind => (kind, first)

/-- The line that a text is, if it follows the protocol. -/
def parse? (s : Text) : Option Line :=
  match locate? s with
  | none => none
  | some (location, fields) =>
    match readNumber? fields.number, readFields? (Text.trim fields.first) (Text.trim fields.second)
    with
    | some number, some (kind, name) =>
      some { location, number, name, kind, message := fields.message.filter (· ≠ []) }
    | _, _ => none

/-- Where the line comes from: its location and its number. -/
def position (line : Line) : Text := line.location ++ ':' :: Decimal.write line.number

/-- What an annotating line says: the message, or the name where there is none. -/
def remark (line : Line) : Text := line.message.getD line.name

/-- The message behind its colon, nothing if there is none. -/
def messageText : Option Text → Text
  | none => []
  | some message => ':' :: message

/-- The line with the keyword before the name. -/
def write (line : Line) : Text :=
  line.position ++ ':' :: line.kind.keyword ++ ':' :: line.name ++ messageText line.message

/-- The line with the keyword behind the name. -/
def writeNameFirst (line : Line) : Text :=
  line.position ++ ':' :: line.name ++ ':' :: line.kind.keyword ++ messageText line.message

end Line
end Protocol
end TestBench
