/-
# Log events

What the library reports on the side while it works.  An event has a level, the part of the program
that it comes from, and a message.
-/

import TestBench.Text.Basic

namespace TestBench
namespace Log

/-- How much an event matters, most first. -/
inductive Level where
  | error
  | warn
  | info
  | debug
  | trace
  deriving DecidableEq, Repr

namespace Level

/-- The place of a level: the more an event matters, the lower. -/
def rank : Level → Nat
  | error => 1
  | warn => 2
  | info => 3
  | debug => 4
  | trace => 5

end Level

/-- The parts of the program that log. -/
inductive Target where
  /-- The log protocol of test binaries. -/
  | protocol
  /-- The walk through a build directory. -/
  | discovery
  /-- Running test binaries. -/
  | runner
  /-- The settings. -/
  | settings
  /-- Sanitizer variants. -/
  | sanitizer
  /-- The command line. -/
  | dispatch
  /-- The error that a command ends with. -/
  | failure
  /-- The causes of that error, which are shown without a heading. -/
  | cause
  /-- The set-up of the log itself. -/
  | output
  deriving DecidableEq, Repr

/-- One event. -/
structure Event where
  level : Level
  target : Target
  message : Text
  deriving DecidableEq, Repr

end Log
end TestBench
