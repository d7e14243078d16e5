/-
# Writing on a sink

What writes hands its bytes over piece by piece, and each write has a result of its own: it succeeds, or
the sink refuses it.  A piece with more spaces than can be asked for lets the program crash before anything
of the piece is written.

| it halts | why |
| --- | --- |
| `refused` | the sink did not take all, or cannot pass on all that it took |
| `crashed` | the program panicked |
-/

import TestBench.Report.Piece
import TestBench.Report.Sink

namespace TestBench
namespace Report

/-- Why a writing does not come to its end. -/
inductive Halt where
  | refused (err : WriteError)
  /-- The program panicked. -/
  | crashed
  deriving DecidableEq, Repr

/-- Something that writes on a sink and comes to a value, or halts. -/
def Writing (α : Type) : Type := Sink → Sink × Except Halt α

instance : Monad Writing where
  pure a := fun sink => (sink, .ok a)
  bind writing next := fun sink =>
    match writing sink with
    | (sink, .ok a) => next a sink
    | (sink, .error halt) => (sink, .error halt)

namespace Writing

/-- The result of a write that the sink did or did not go along with. -/
def resultIf (success : Bool) (sink : Sink) : Except Halt Unit :=
  if success then .ok () else .error (.refused { cause := sink.refusal })

/-- Bytes are written, as far as the sink takes them. -/
def write (bytes : Bytes) : Writing Unit := fun sink =>
  (sink.push bytes, resultIf (sink.holds bytes) sink)

/-- The sink is asked to pass on all that it has taken. -/
def flush : Writing Unit := fun sink => (sink, resultIf sink.isClear sink)

/-- The program panics. -/
def crash : Writing Unit := fun sink => (sink, .error .crashed)

end Writing

/-- How reports are written. -/
structure Reporter where
  /-- Styles show. -/
  color : Bool
  /-- The directory that paths are shown relative to. -/
  base : Option Text
  deriving DecidableEq, Repr

namespace Reporter

/-- A piece is written. -/
def put (reporter : Reporter) (piece : Piece) : Writing Unit :=
  if piece.isInRange then Writing.write (piece.render reporter.color) else Writing.crash

/-- Pieces are written one after the other. -/
def write (reporter : Reporter) (pieces : List Piece) : Writing Unit := pieces.forM reporter.put

end Reporter
end Report
end TestBench
