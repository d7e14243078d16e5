/-
# How a process ended

The system hands over one word for a process that ended.

| low seven bits | meaning | where the value is |
| --- | --- | --- |
| 0 | the process exited | code: bits 8 to 15 |
| 1 to 126 | a signal killed it | signal: the low seven bits |
| 127 | neither: it stopped or goes on | |

A process succeeded if the whole word is zero.
-/

import TestBench.Text.Decimal

namespace TestBench
namespace Program

/-- The word that the system hands over for a process that ended. -/
structure Exit where
  word : Nat
  deriving DecidableEq, Repr

namespace Exit

/-- The end with an exit code. -/
def ofCode (code : Nat) : Exit := { word := code % 256 * 256 }

/-- The end by a signal. -/
def ofSignal (signal : Nat) : Exit := { word := signal % 128 }

/-- Exit code zero. -/
def success : Exit := ofCode 0

def isSuccess (exit : Exit) : Bool := exit.word == 0

/-- The exit code, if the process exited. -/
def code? (exit : Exit) : Option Nat :=
  if exit.word % 128 = 0 then some (exit.word / 256 % 256) else none

/-- The signal that killed the process, if one did. -/
def signal? (exit : Exit) : Option Nat :=
  let signal := exit.word % 128
  if signal = 0 ∨ signal = 127 then none else some signal

/-- The names of the signals whose numbers are the same on all systems. -/
def signalName? : Nat → Option Text
  | 1 => some "HUP".toList
  | 2 => some "INT".toList
  | 3 => some "QUIT".toList
  | 4 => some "ILL".toList
  | 5 => some "TRAP".toList
  | 6 => some "ABRT".toList
  | 8 => some "FPE".toList
  | 9 => some "KILL".toList
  | 11 => some "SEGV".toList
  | 13 => some "PIPE".toList
  | 14 => some "ALRM".toList
  | 15 => some "TERM".toList
  | _ => none

/-- A signal by its number, and by its name where that is known. -/
def signalText (signal : Nat) : Text :=
  Decimal.write signal ++ match signalName? signal with
    | some name => " (SIG".toList ++ name ++ ")".toList
    | none => []

/-- How the process ended, in words. -/
def describe (exit : Exit) : Text :=
  match exit.code?, exit.signal? with
  | some code, _ => "exited with code ".toList ++ Decimal.write code
  | none, some signal => "killed by signal ".toList ++ signalText signal
  | none, none => "exited with an unknown status".toList

end Exit
end Program
end TestBench
