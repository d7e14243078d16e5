/-
# Test cases

A case is one check that a test binary reports.  Its closing line names it; the annotations printed
since the previous closing line belong to it as its notes.  All other lines are noise.

`Reader` yields the cases of an output one at a time, as they are asked for.  Notes that no closing
line follows are dropped, which is logged when the end is reached.
-/

import TestBench.Protocol.Line
import TestBench.Text.Lines
import TestBench.Text.Utf8
import TestBench.Log.Event

namespace TestBench
namespace Protocol

/-- A note on a case. -/
structure Note where
  /-- The location and the line that the note comes from. -/
  position : Text
  message : Text
  deriving DecidableEq, Repr

/-- One check of a test binary. -/
structure Case where
  /-- The line of the check in its source file. -/
  line : Nat
  name : Text
  status : Status
  message : Option Text
  /-- The notes printed since the previous case, in their order. -/
  notes : List Note
  deriving DecidableEq, Repr

/-- The note that an annotating line carries. -/
def Line.toNote (line : Line) : Note := { position := line.position, message := line.remark }

/-- The case that a line with the status `status` closes. -/
def Line.toCase (line : Line) (status : Status) (notes : List Note) : Case :=
  { line := line.number, name := line.name, status, message := line.message, notes }

/-- A position in the output of a test binary: the lines that are still to be read, and the notes
that wait for the line that closes their case. -/
structure Reader where
  lines : List Text
  pending : List Note
  deriving DecidableEq, Repr

namespace Reader

/-- The reader at the start of an output. -/
def ofText (output : Text) : Reader := { lines := Text.lines output, pending := [] }

/-- The event of reaching the end with `pending` notes. -/
def dropped (pending : List Note) : List Log.Event :=
  if pending = [] then []
  else [{ level := .debug, target := .protocol
          message := "dropping ".toList ++ Decimal.write pending.length
            ++ " annotation(s) not followed by a terminal line".toList }]

/-- `next` on the parts of a reader. -/
def nextFrom : List Text → List Note → Option Case × Reader × List Log.Event
  | [], pending => (none, { lines := [], pending := [] }, dropped pending)
  | raw :: rest, pending =>
    match Line.parse? raw with
    | none => nextFrom rest pending
    | some line =>
      match line.kind with
      | .info => nextFrom rest (pending ++ [line.toNote])
      | .closing status => (some (line.toCase status pending), { lines := rest, pending := [] }, [])

/-- The next case of the output, the reader behind it and what is logged on the way; no case at the
end of the output. -/
def next (reader : Reader) : Option Case × Reader × List Log.Event :=
  nextFrom reader.lines reader.pending

/-- The results of the next `count` requests. -/
def take : (count : Nat) → Reader → List (Option Case)
  | 0, _ => []
  | count + 1, reader =>
    let (case?, reader', _) := reader.next
    case? :: take count reader'

/-- The cases of the first `count` requests up to the end, and what is logged. -/
def collect : (count : Nat) → Reader → List Case × List Log.Event
  | 0, _ => ([], [])
  | count + 1, reader =>
    match reader.next with
    | (none, _, events) => ([], events)
    | (some case, reader', events) =>
      let (cases, events') := collect count reader'
      (case :: cases, events ++ events')

/-- All cases that are left, and what is logged.  Each request but the last uses up a line. -/
def toList (reader : Reader) : List Case × List Log.Event :=
  collect (reader.lines.length + 1) reader

end Reader

/-- The cases that an output reports, and what is logged while it is read. -/
def readCases (output : Text) : List Case × List Log.Event := (Reader.ofText output).toList

/-- The cases that an output reports. -/
def cases (output : Text) : List Case := (readCases output).1

/-- The location of the first line of an output that follows the protocol. -/
def firstLocation? (output : Text) : Option Text :=
  ((Text.lines output).findSome? Line.parse?).map Line.location

/-- Output that is not text. -/
structure DecodeError where
  /-- The length of its longest well-formed beginning. -/
  validUpTo : Nat
  deriving DecidableEq, Repr

/-- What is said of output that is not text. -/
def DecodeError.message (err : DecodeError) : Text :=
  "standard output is not valid UTF-8 (valid up to byte ".toList ++ Decimal.write err.validUpTo
    ++ ")".toList

/-- The text of an output; malformed bytes are an error and not replaced. -/
def decodeOutput (output : Bytes) : Except DecodeError Text :=
  match Utf8.decode? output with
  | .ok text => .ok text
  | .error validUpTo => .error { validUpTo }

end Protocol
end TestBench
