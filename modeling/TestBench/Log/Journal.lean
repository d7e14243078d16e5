/-
# Journals

A journal is what goes to standard error, in order: events of the log, and the output of build commands.
-/

import TestBench.Log.Event

namespace TestBench
namespace Log

/-- One thing that goes to standard error. -/
inductive Entry where
  | event (event : Event)
  /-- What a build command wrote. -/
  | output (chunk : Bytes)
  deriving DecidableEq, Repr

/-- What goes to standard error, in order. -/
abbrev Journal := List Entry

namespace Journal

/-- A journal of events alone. -/
def ofEvents (events : List Event) : Journal := events.map .event

/-- The events of a journal. -/
def events (journal : Journal) : List Event :=
  journal.filterMap fun
    | .event event => some event
    | .output _ => none

/-- The output of build commands in a journal. -/
def output (journal : Journal) : Bytes :=
  journal.flatMap fun
    | .event _ => []
    | .output chunk => chunk

@[simp] theorem events_append (first second : Journal) :
    events (first ++ second) = events first ++ events second := by
  simp [events]

@[simp] theorem output_append (first second : Journal) :
    output (first ++ second) = output first ++ output second := by
  simp [output]

end Journal
end Log
end TestBench
