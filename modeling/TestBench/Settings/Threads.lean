/-
# How many binaries run at once

A number, or as many as there are processors.  A negative number counts back from the processors, but
leaves at least one.  Numbers are signed words of 64 bits; zero is no answer.

A text and a value of a file are converted each in its own way (`ofWord?`, `ofInteger?`).
-/

import TestBench.Text.Decimal
import TestBench.Text.Basic

namespace TestBench
namespace Settings

/-- How many test binaries run at once. -/
inductive Threads where
  | count (n : Nat)
  | processors
  deriving DecidableEq, Repr

/-- A text that is no number of binaries. -/
structure ThreadsError where
  text : Text
  deriving DecidableEq, Repr

/-- What is said of a text that is no number of binaries. -/
def ThreadsError.message (err : ThreadsError) : Text :=
  "unrecognized value for test-threads: ".toList ++ err.text
    ++ "\n(hint: expected an integer or \"num-cpus\")".toList

namespace Threads

/-- The word for as many as there are processors. -/
def processorsWord : Text := "num-cpus".toList

/-- The word that a text denotes; numbers that take more than 64 bits are none. -/
def readSigned? (text : Text) : Option Int64 :=
  ((Decimal.readInt? text).filter fun n => Int64.minValue.toInt ≤ n && n ≤ Int64.maxValue.toInt).map
    Int64.ofInt

/-- The number of binaries that the word of a text stands for on a machine with `cpus` processors. -/
def ofWord? (cpus : UInt64) (n : Int64) : Option Threads :=
  if n = 0 then none
  else if n < 0 then some (count (max (cpus.toInt64 + n) 1).toUInt64.toNat)
  else some (count n.toUInt64.toNat)

/-- The number of binaries that an integer of a file stands for on a machine with `cpus` processors. -/
def ofInteger? (cpus : UInt64) (n : Int64) : Option Threads :=
  match compare n 0 with
  | .gt => some (count n.toUInt64.toNat)
  | .lt => some (count (max (cpus.toInt64 + n) 1).toUInt64.toNat)
  | .eq => none

/-- The number of binaries that a text asks for. -/
def ofText (cpus : Nat) (text : Text) : Except ThreadsError Threads :=
  if text = processorsWord then .ok processors
  else match (readSigned? text).bind (ofWord? (.ofNat cpus)) with
    | some threads => .ok threads
    | none => .error { text }

/-- How it is shown. -/
def write : Threads → Text
  | count n => Decimal.write n
  | processors => processorsWord

/-- The number on a machine with `cpus` processors. -/
def resolve (cpus : Nat) : Threads → Nat
  | count n => n
  | processors => cpus

end Threads
end Settings
end TestBench
