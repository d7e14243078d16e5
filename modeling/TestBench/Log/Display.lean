/-
# How a journal looks

Each event that the filter shows is a line: a heading, a colon, a space and the message.  The causes of
an error stand without a heading.  The headings may be in colour.

| level | heading | parameters |
| --- | --- | --- |
| error | `error` | 31;1, bold red |
| warn | `warning` | 33;1, bold yellow |
| info | `info` | 1, bold |
| debug | `debug` | 1, bold |
| trace | `trace` | 2, faint |
-/

import TestBench.Log.Filter
import TestBench.Log.Journal
import TestBench.Report.Piece

namespace TestBench
namespace Log

namespace Level

/-- The heading of a level, and the parameters of its rendition. -/
def heading : Level → Text × Text
  | error => ("error".toList, "31;1".toList)
  | warn => ("warning".toList, "33;1".toList)
  | info => ("info".toList, "1".toList)
  | debug => ("debug".toList, "1".toList)
  | trace => ("trace".toList, "2".toList)

end Level

/-- How events are shown. -/
structure Display where
  filter : Filter
  /-- The headings are in colour. -/
  color : Bool
  deriving DecidableEq, Repr

namespace Display

/-- What stands in front of the message of an event. -/
def headingOf (display : Display) (event : Event) : Text :=
  if event.target = .cause then []
  else
    let (heading, parameters) := event.level.heading
    (if display.color then Report.inRendition parameters heading else heading) ++ ": ".toList

/-- The line of an event. -/
def line (display : Display) (event : Event) : Text :=
  display.headingOf event ++ event.message ++ ['\n']

/-- What an entry of a journal puts out. -/
def entry (display : Display) : Entry → Bytes
  | .output chunk => chunk
  | .event event => if display.filter.shows event then Utf8.encode (display.line event) else []

/-- What a journal puts out. -/
def render (display : Display) (journal : Journal) : Bytes := journal.flatMap display.entry

@[simp] theorem render_append (display : Display) (first second : Journal) :
    display.render (first ++ second) = display.render first ++ display.render second := by
  simp [render]

end Display
end Log
end TestBench
