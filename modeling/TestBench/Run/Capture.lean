/-
# Watching a test binary

While a test binary runs, its two outputs come in through pipes and are taken piece by piece.  What
happens is a sequence of events, in whatever order the system brings them about.

| event | changes |
| --- | --- |
| `wrote` | the binary put bytes into a pipe that it has open |
| `closed` | no writer of a pipe is left |
| `read` | the reader of a pipe hands on what it has, at most a page; nothing, from a closed pipe, is the end |
| `readFailed` | a pipe could not be read and is given up, which is noted |
| `cancelled` | a read was begun and dropped, for another event came first: what the reader took stays with it |
| `expired` | the limit has run out: the binary is killed, once |
| `ended` | the end of the binary was observed |
| `drained` | the time for late output has run out |

Reads go on after the end of the binary, until both pipes are at their end or the time for that has run
out.  An event that cannot happen in a state changes nothing.
-/

import TestBench.Program.Performance
import TestBench.Run.Outcome

namespace TestBench
namespace Run

open Program

/-- A pipe, its reader, and what the reader has handed on. -/
structure Pipe where
  /-- The bytes in the pipe. -/
  waiting : Bytes
  /-- Some writer has the pipe open. -/
  isOpen : Bool
  /-- The bytes that the reader took from the pipe and has not handed on. -/
  buffer : Bytes
  /-- The pieces that were handed on, the last one first. -/
  pieces : List Bytes
  /-- The end was seen, or the pipe was given up. -/
  isDone : Bool
  deriving DecidableEq, Repr

namespace Pipe

/-- An open, empty pipe. -/
def fresh : Pipe := { waiting := [], isOpen := true, buffer := [], pieces := [], isDone := false }

/-- All that was handed on. -/
def taken (pipe : Pipe) : Bytes := pipe.pieces.reverse.flatten

/-- The size of the reader's buffer. -/
def pageSize : Nat := 4096

/-- Bytes are written. -/
def write (pipe : Pipe) (chunk : Bytes) : Pipe :=
  if pipe.isOpen then { pipe with waiting := pipe.waiting ++ chunk } else pipe

/-- The last writer is gone. -/
def close (pipe : Pipe) : Pipe := { pipe with isOpen := false }

/-- The reader is asked for bytes.  Those that it has not handed on come first; without any it takes what
is in the pipe, as far as its buffer holds it. -/
def fill (pipe : Pipe) : Pipe :=
  if pipe.buffer = [] then
    { pipe with buffer := pipe.waiting.take pageSize, waiting := pipe.waiting.drop pageSize }
  else pipe

/-- The reader has nothing, but something may come. -/
def isPending (pipe : Pipe) : Bool := pipe.buffer = [] && pipe.isOpen

/-- What the reader has is handed on; if that is nothing, it is the end. -/
def handOn (pipe : Pipe) : Pipe :=
  { pipe with
    pieces := pipe.buffer :: pipe.pieces
    buffer := []
    isDone := pipe.isDone || pipe.buffer = [] }

/-- A read. -/
def read (pipe : Pipe) : Pipe :=
  if pipe.isDone then pipe
  else if pipe.fill.isPending then pipe.fill
  else pipe.fill.handOn

/-- A read that is dropped after the reader was asked. -/
def cancel (pipe : Pipe) : Pipe := if pipe.isDone then pipe else pipe.fill

/-- A read may fail: the reader has nothing and would have to look into the pipe. -/
def mayFail (pipe : Pipe) : Bool := !pipe.isDone && pipe.buffer = []

/-- The pipe is given up. -/
def giveUp (pipe : Pipe) : Pipe := { pipe with isDone := true }

end Pipe

/-- A pipe that could not be read. -/
structure ReadError where
  stream : Stream
  /-- What the system said. -/
  cause : Text
  deriving DecidableEq, Repr

/-- What is said of a pipe that could not be read. -/
def ReadError.message (err : ReadError) : Text :=
  (match err.stream with
    | .out => "error reading standard output: ".toList
    | .err => "error reading standard error: ".toList) ++ err.cause

/-- How far a watched binary is. -/
inductive Phase where
  | running
  /-- It has ended, and late output is awaited. -/
  | draining (wait : Except WaitError Exit)
  /-- Nothing more is awaited. -/
  | finished (wait : Except WaitError Exit)

/-- The end of the binary was observed. -/
def Phase.hasEnded : Phase → Bool
  | running => false
  | draining _ | finished _ => true

/-- A test binary under watch. -/
structure Watch where
  out : Pipe
  err : Pipe
  phase : Phase
  /-- How long it may run. -/
  limit : Option Duration
  /-- The limit ran out while it was running. -/
  isExpired : Bool
  /-- How often it was killed. -/
  kills : Nat
  /-- The pipes that could not be read. -/
  errors : List ReadError

/-- What may happen to a watched binary. -/
inductive Occurrence where
  | wrote (stream : Stream) (chunk : Bytes)
  | closed (stream : Stream)
  | read (stream : Stream)
  | readFailed (err : ReadError)
  | cancelled (stream : Stream)
  | expired
  | ended (wait : Except WaitError Exit)
  | drained

namespace Watch

/-- A binary that was just started. -/
def start (limit : Option Duration) : Watch :=
  { out := .fresh, err := .fresh, phase := .running, limit, isExpired := false, kills := 0, errors := [] }

/-- The pipe of an output. -/
def pipe (watch : Watch) : Stream → Pipe
  | .out => watch.out
  | .err => watch.err

/-- A change of one pipe. -/
def onPipe (watch : Watch) (change : Pipe → Pipe) : Stream → Watch
  | .out => { watch with out := change watch.out }
  | .err => { watch with err := change watch.err }

/-- A pipe is given up, which is noted. -/
def fail (watch : Watch) (err : ReadError) : Watch :=
  { watch.onPipe Pipe.giveUp err.stream with errors := watch.errors ++ [err] }

/-- Both pipes are done. -/
def isDone (watch : Watch) : Bool := watch.out.isDone && watch.err.isDone

/-- Reads are possible. -/
def isListening (watch : Watch) : Bool :=
  match watch.phase with
  | .running | .draining _ => true
  | .finished _ => false

/-- Waiting for late output ends when both pipes are done. -/
def settle (watch : Watch) : Watch :=
  match watch.phase with
  | .draining wait => if watch.isDone then { watch with phase := .finished wait } else watch
  | _ => watch

/-- The watch after an occurrence. -/
def step (watch : Watch) : Occurrence → Watch
  | .wrote stream chunk => watch.onPipe (·.write chunk) stream
  | .closed stream => watch.onPipe Pipe.close stream
  | .read stream => if watch.isListening then (watch.onPipe Pipe.read stream).settle else watch
  | .readFailed err =>
    if watch.isListening && (watch.pipe err.stream).mayFail then (watch.fail err).settle else watch
  | .cancelled stream => if watch.isListening then watch.onPipe Pipe.cancel stream else watch
  | .expired =>
    match watch.phase with
    | .running =>
      if watch.limit.isSome ∧ watch.isExpired = false then
        { watch with isExpired := true, kills := watch.kills + 1 }
      else watch
    | _ => watch
  | .ended wait =>
    match watch.phase with
    | .running => ({ watch with phase := .draining wait } : Watch).settle
    | _ => watch
  | .drained =>
    match watch.phase with
    | .draining wait => { watch with phase := .finished wait }
    | _ => watch

/-- The watch after occurrences, one after the other. -/
def run (watch : Watch) (occurrences : List Occurrence) : Watch := occurrences.foldl step watch

/-- What was captured, once nothing more is awaited. -/
def outcome? (watch : Watch) : Option Outcome :=
  match watch.phase with
  | .finished wait =>
    some { wait, stdout := watch.out.taken, stderr := watch.err.taken
           expired := if watch.isExpired then watch.limit else none }
  | _ => none

end Watch

namespace Occurrence

/-- Reads that take all of `count` bytes. -/
def reads (stream : Stream) (count : Nat) : List Occurrence :=
  List.replicate ((count + Pipe.pageSize - 1) / Pipe.pageSize) (.read stream)

/-- What happens while a program does something. -/
def ofAct : Act → List Occurrence
  | .write stream chunk => .wrote stream chunk :: reads stream chunk.length
  | .sleep _ => []

/-- What happens when the program has ended. -/
def ending (exit : Exit) (keepsOpen : Bool) : List Occurrence :=
  (if keepsOpen then [] else [.closed .out, .closed .err])
    ++ [.ended (.ok exit), .read .out, .read .err, .drained]

/-- How long a program takes before it does anything. -/
def startingTime : Nat := 1000000

/-- What happens to a program that nothing else disturbs: all that it writes is read at once, and it is
killed when the limit runs out. -/
def ofPerformance (performance : Performance) (limit : Option Duration) : List Occurrence :=
  let acts := .sleep startingTime :: performance.acts
  let allowed := (limit.map Duration.totalNanos).getD (startingTime + performance.nanoseconds)
  if allowed < startingTime + performance.nanoseconds then
    (Act.within allowed acts).flatMap ofAct ++ .expired :: ending (.ofSignal 9) false
  else acts.flatMap ofAct ++ ending performance.exit performance.keepsOpen

/-- The occurrence is the end of the binary. -/
def isEnd : Occurrence → Bool
  | ended _ => true
  | _ => false

end Occurrence

namespace Watch

theorem hasEnded_settle (watch : Watch) : watch.settle.phase.hasEnded = watch.phase.hasEnded := by
  unfold settle
  split
  · next h => split <;> simp [Phase.hasEnded, h]
  · rfl

@[simp] theorem phase_onPipe (watch : Watch) (change : Pipe → Pipe) (stream : Stream) :
    (watch.onPipe change stream).phase = watch.phase := by
  cases stream <;> rfl

@[simp] theorem phase_fail (watch : Watch) (err : ReadError) : (watch.fail err).phase = watch.phase :=
  watch.phase_onPipe Pipe.giveUp err.stream

/-- The end is observed when it occurs, and is not forgotten. -/
theorem hasEnded_step (watch : Watch) (o : Occurrence) :
    (watch.step o).phase.hasEnded = (watch.phase.hasEnded || o.isEnd) := by
  cases o with
  | wrote stream chunk => simp [step, Occurrence.isEnd]
  | closed stream => simp [step, Occurrence.isEnd]
  | read stream => simp only [step]; split <;> simp [hasEnded_settle, Occurrence.isEnd]
  | readFailed err => simp only [step]; split <;> simp [hasEnded_settle, Occurrence.isEnd]
  | cancelled stream => simp only [step]; split <;> simp [Occurrence.isEnd]
  | expired => simp only [step]; split <;> (try split) <;> simp [Occurrence.isEnd, *]
  | ended wait =>
    simp only [step]
    split
    · rw [hasEnded_settle]
      simp [Phase.hasEnded, Occurrence.isEnd]
    · next h => cases hp : watch.phase <;> simp_all [Phase.hasEnded, Occurrence.isEnd]
  | drained =>
    simp only [step]
    split <;> simp_all [Phase.hasEnded, Occurrence.isEnd]

/-- The end has been observed after a run iff it was before or is among the occurrences. -/
theorem hasEnded_run (watch : Watch) (os : List Occurrence) :
    (watch.run os).phase.hasEnded = (watch.phase.hasEnded || os.any Occurrence.isEnd) := by
  induction os generalizing watch with
  | nil => simp [run]
  | cons o os ih =>
    have : watch.run (o :: os) = (watch.step o).run os := rfl
    rw [this, ih, hasEnded_step, List.any_cons, Bool.or_assoc]

/-- Once the end was observed and the time for late output has run out, there is an outcome. -/
theorem isSome_outcome?_drained {watch : Watch} (h : watch.phase.hasEnded = true) :
    (watch.step .drained).outcome?.isSome = true := by
  cases hp : watch.phase <;> simp_all [step, outcome?, Phase.hasEnded]

end Watch

namespace Occurrence

/-- An undisturbed program comes to an outcome. -/
theorem isSome_outcome?_ofPerformance (watch : Watch) (performance : Performance)
    (limit : Option Duration) :
    (watch.run (ofPerformance performance limit)).outcome?.isSome = true := by
  have key (exit : Exit) (keepsOpen : Bool) (before : List Occurrence) :
      (watch.run (before ++ ending exit keepsOpen)).outcome?.isSome = true := by
    have : before ++ ending exit keepsOpen
        = (before ++ (if keepsOpen then [] else [.closed .out, .closed .err])
            ++ [.ended (.ok exit), .read .out, .read .err]) ++ [.drained] := by
      simp [ending]
    rw [this, Watch.run, List.foldl_append]
    exact Watch.isSome_outcome?_drained
      (by rw [← Watch.run, Watch.hasEnded_run]; simp [isEnd])
  simp only [ofPerformance]
  split
  · rw [show ∀ l : List Occurrence, ∀ e, l ++ .expired :: e = (l ++ [.expired]) ++ e by simp]
    exact key _ _ _
  · exact key _ _ _

end Occurrence
end Run
end TestBench
