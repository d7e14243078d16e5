/-
# Log filters

A filter says which events are shown.  It is written as directives with commas between them.

| directive | shows |
| --- | --- |
| `level` | all events up to the level |
| `target` | all events of targets that begin so |
| `target=level` | the events of targets that begin so, up to the level |
| `target[{field}]=level` | the same, but only events that have the field |

Levels are `off`, `error`, `warn`, `info`, `debug`, `trace` in any case, or 0 to 5; no text means
`error`.  The most specific directive that fits an event decides: the one with the longest target, then
the one with the most fields, then the greatest one.  Without a fitting directive an event is not shown.
-/

import TestBench.Log.Event
import TestBench.Text.Decimal
import TestBench.Text.Utf8

namespace TestBench
namespace Log

namespace Target

/-- The name of a target in directives. -/
def name : Target → Text
  | protocol => "ktest_runner::protocol".toList
  | discovery => "ktest_runner::discovery".toList
  | runner => "ktest_runner::runner".toList
  | settings => "ktest_runner::config".toList
  | sanitizer => "ktest_runner::sanitizer".toList
  | dispatch => "ktest::dispatch".toList
  | failure => "ktest::errors".toList
  | cause => "ktest::no_heading".toList
  | output => "ktest::output".toList

end Target

/-- Up to which level events are shown: `rank` is that of the level, zero for none. -/
structure Threshold where
  rank : Nat
  deriving DecidableEq, Repr

namespace Threshold

/-- The names of the thresholds, in the order of their ranks. -/
def names : List Text :=
  ["off", "error", "warn", "info", "debug", "trace"].map String.toList

/-- Upper-case letters of the basic alphabet become lower-case. -/
def lowerAscii (text : Text) : Text := text.map Char.toLower

/-- The number that a text denotes, with or without a plus sign. -/
def number? : Text → Option Nat
  | '+' :: digits => Decimal.read? digits
  | digits => Decimal.read? digits

/-- The threshold that a text names. -/
def ofText? (text : Text) : Option Threshold :=
  match (number? text).filter (· < names.length) with
  | some rank => some { rank }
  | none =>
    if text = [] then some { rank := Level.error.rank }
    else (names.findIdx? (· = lowerAscii text)).map fun rank => { rank }

/-- Everything. -/
def everything : Threshold := { rank := Level.trace.rank }

/-- The events of a level are shown. -/
def shows (threshold : Threshold) (level : Level) : Bool := level.rank ≤ threshold.rank

end Threshold

/-- One directive. -/
structure Directive where
  /-- How the targets begin that it is about; all of them if absent. -/
  target : Option Text
  /-- The fields that an event has to have. -/
  fields : List Text
  threshold : Threshold
  deriving DecidableEq, Repr

/-- Why a text is no filter. -/
inductive FilterError where
  | tooManyEquals
  | tooManyFieldLists
  | unclosedFieldList
  | unknownLevel
  deriving DecidableEq, Repr

/-- What is said of a text that is no filter. -/
def FilterError.message : FilterError → Text
  | tooManyEquals =>
    "invalid filter directive: too many '=' in filter directive, expected 0 or 1".toList
  | tooManyFieldLists =>
    "invalid filter directive: too many '[\x7b' in filter directive, expected 0 or 1".toList
  | unclosedFieldList => "invalid filter directive: expected fields list to end with '\x7d]'".toList
  | unknownLevel =>
    "error parsing level filter: expected one of \"off\", \"error\", \"warn\", \"info\", \"debug\", \"trace\", or a number 0-5".toList

namespace Directive

/-- What opens a list of fields. -/
def opening : Text := "[\x7b".toList

/-- What closes a list of fields. -/
def closing : Text := "\x7d]".toList

/-- The parts of a text between occurrences of `mark`, which is not empty; `current` is the part that is
being read, last character first, and `skip` counts characters of a mark that was met. -/
def splitAtMark (mark : Text) : (current : Text) → (skip : Nat) → Text → List Text
  | current, _, [] => [current.reverse]
  | current, skip + 1, _ :: s => splitAtMark mark current skip s
  | current, 0, c :: s =>
    if mark.isPrefixOf (c :: s) then current.reverse :: splitAtMark mark [] (mark.length - 1) s
    else splitAtMark mark (c :: current) 0 s

/-- A text without the marks at its end. -/
def dropMarks (mark : Text) : (steps : Nat) → Text → Text
  | 0, s => s
  | steps + 1, s =>
    if mark.isSuffixOf s then dropMarks mark steps (s.take (s.length - mark.length)) else s

/-- The target and the fields in front of the equals sign. -/
def readSubject (text : Text) : Except FilterError (Text × List Text) :=
  match splitAtMark opening [] 0 text with
  | target :: fields :: [] =>
    if closing.isSuffixOf fields then
      .ok (target, (splitAll (· = ',') (dropMarks closing fields.length fields)).filter (· ≠ []))
    else .error .unclosedFieldList
  | _ :: _ :: _ :: _ => .error .tooManyFieldLists
  | parts => .ok (parts.headD [], [])

/-- The directive that a text describes. -/
def ofText (text : Text) : Except FilterError Directive :=
  match splitAll (· = '=') text with
  | [subject, level] =>
    match readSubject subject with
    | .error err => .error err
    | .ok (target, fields) =>
      match Threshold.ofText? level with
      | some threshold => .ok { target := some target, fields, threshold }
      | none => .error .unknownLevel
  | _ :: _ :: _ => .error .tooManyEquals
  | _ =>
    match Threshold.ofText? text with
    | some threshold => .ok { target := none, fields := [], threshold }
    | none => .ok { target := some text, fields := [], threshold := .everything }

/-- The only field that events have. -/
def messageField : Text := "message".toList

/-- The directive is about the events of a target. -/
def isAbout (directive : Directive) (target : Target) : Bool :=
  (match directive.target with
    | some start => start.isPrefixOf target.name
    | none => true)
  && directive.fields.all (· = messageField)

/-- The length of a directive's target in bytes, one more than that, and zero if it has none. -/
def targetRank (directive : Directive) : Nat :=
  match directive.target with
  | some target => (Utf8.encode target).length + 1
  | none => 0

/-- `a` goes before `b`. -/
def isMoreSpecific (a b : Directive) : Bool :=
  if a.targetRank ≠ b.targetRank then b.targetRank < a.targetRank
  else if a.fields.length ≠ b.fields.length then b.fields.length < a.fields.length
  else if a.target ≠ b.target then (b.target.getD []) < (a.target.getD [])
  else b.fields < a.fields

/-- Two directives are about the same events. -/
def isSameSubject (a b : Directive) : Bool := a.target = b.target && a.fields = b.fields

end Directive

/-- Directives, the most specific first, of which no two are about the same events. -/
structure Filter where
  directives : List Directive
  deriving DecidableEq, Repr

namespace Filter

/-- A directive put in its place; one about the same events is replaced. -/
def insertDirective (directive : Directive) : List Directive → List Directive
  | [] => [directive]
  | other :: rest =>
    if directive.isSameSubject other then directive :: rest
    else if directive.isMoreSpecific other then directive :: other :: rest
    else other :: insertDirective directive rest

/-- The filter of directives in the order in which they are written. -/
def ofDirectives (directives : List Directive) : Filter :=
  { directives := directives.foldl (fun placed directive => insertDirective directive placed) [] }

/-- The filter that a text describes. -/
def ofText (text : Text) : Except FilterError Filter :=
  ((splitAll (· = ',') text).mapM Directive.ofText).map ofDirectives

/-- What is shown if nothing else is asked for. -/
def standard : Filter :=
  { directives := [{ target := none, fields := [], threshold := { rank := Level.info.rank } }] }

/-- An event is shown. -/
def shows (filter : Filter) (event : Event) : Bool :=
  match filter.directives.find? fun directive => directive.isAbout event.target with
  | some directive => directive.threshold.shows event.level
  | none => false

end Filter
end Log
end TestBench
