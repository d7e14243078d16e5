/-
# What a program does

A program is known by what it does when it is started: what it writes to its two outputs, which
variables of its environment it shows, and how it ends.
-/

import TestBench.Program.Exit

namespace TestBench
namespace Program

/-- How a program ends. -/
inductive Ending where
  /-- It exits with a code. -/
  | exit (code : Nat)
  /-- It dies of a signal. -/
  | signal (signal : Nat)
  /-- It sleeps for `seconds` and then exits with a code. -/
  | sleep (seconds code : Nat)
  /-- It exits with code 0 and leaves a child behind that keeps its outputs open. -/
  | leak
  deriving DecidableEq, Repr

/-- What a program does. -/
structure Recipe where
  stdout : Bytes
  stderr : Bytes
  /-- The variables that it shows on standard error, behind `stderr`. -/
  shows : List Text
  ending : Ending
  deriving DecidableEq, Repr

end Program
end TestBench
