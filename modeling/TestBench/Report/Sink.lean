/-
# Where reports go

A sink takes bytes until it is full.  Of a chunk that fits only in part it takes the part; that
write and every later write of at least one byte fails.

A sink may have a reserve: then it takes more bytes than it can pass on, and only says so when the reserve
is used up, or when it is asked whether all has been passed on.
-/

import TestBench.Text.Utf8

namespace TestBench
namespace Report

/-- The receiver of a report. -/
structure Sink where
  /-- How many bytes it passes on in all; no bound if absent. -/
  capacity : Option Nat
  /-- What it says when it is full. -/
  refusal : Text
  /-- The bytes that it has taken. -/
  taken : Bytes
  /-- How many bytes more it takes than it can pass on. -/
  reserve : Nat := 0
  deriving DecidableEq, Repr

/-- A report that could not be written to its end. -/
structure WriteError where
  /-- What the sink said. -/
  cause : Text
  deriving DecidableEq, Repr

/-- What is said of a report that could not be written. -/
def WriteError.message : Text := "error writing to output".toList

namespace Sink

/-- A sink that takes everything. -/
def unbounded : Sink := { capacity := none, refusal := [], taken := [] }

/-- A sink that takes `capacity` bytes. -/
def bounded (capacity : Nat) (refusal : Text) : Sink :=
  { capacity := some capacity, refusal, taken := [] }

/-- How many bytes more the sink takes. -/
def room (sink : Sink) : Option Nat :=
  sink.capacity.map fun capacity => capacity + sink.reserve - sink.taken.length

/-- What the sink takes of these bytes. -/
def part (sink : Sink) (bytes : Bytes) : Bytes :=
  match sink.room with
  | none => bytes
  | some room => bytes.take room

/-- The sink takes all of these bytes. -/
def holds (sink : Sink) (bytes : Bytes) : Bool :=
  match sink.room with
  | none => true
  | some room => bytes.length ≤ room

/-- The sink after it was handed these bytes. -/
def push (sink : Sink) (bytes : Bytes) : Sink := { sink with taken := sink.taken ++ sink.part bytes }

/-- What the sink passes on of the bytes that it has taken. -/
def output (sink : Sink) : Bytes :=
  match sink.capacity with
  | none => sink.taken
  | some capacity => sink.taken.take capacity

/-- The sink passes on all that it has taken. -/
def isClear (sink : Sink) : Bool :=
  match sink.capacity with
  | none => true
  | some capacity => sink.taken.length ≤ capacity

end Sink
end Report
end TestBench
