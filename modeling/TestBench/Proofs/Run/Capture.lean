/-
# What is captured is what was written

A watched binary writes to two pipes, and the events of watching it come in any order: reads that are through
and reads that are dropped, the end of the limit, of the binary, and of the time for late output.  At every moment
the bytes that were written to an output are these, in this order:

| where | who has them |
| --- | --- |
| `taken` | handed on, the output as it is captured so far |
| `buffer` | taken by the reader in a read that was dropped |
| `waiting` | still in the pipe |

So nothing is lost, comes twice or comes in the other output (`Pipe.Follows`, `held_run`), and a pipe that is done
without an error has nothing left.  The binary is killed at most once, when the limit runs out before its end was
observed (`isExpired_run_iff`).  `run_faithful` is all of this for a whole run.
-/

import TestBench.Run.Capture

namespace TestBench
namespace Run

open Program

/-! ### What happens to the binary -/

namespace Occurrence

/-- What the occurrence puts into the pipe of an output. -/
def chunk (stream : Stream) : Occurrence → Bytes
  | wrote s bytes => if s = stream then bytes else []
  | _ => []

/-- Since the occurrence no writer has the pipe of an output open. -/
def closes (stream : Stream) : Occurrence → Bool
  | closed s => s = stream
  | _ => false

/-- The limit runs out before the end of the binary is observed. -/
def ExpiresInTime (os : List Occurrence) : Prop :=
  ∃ before after, os = before ++ expired :: after ∧ ∀ o ∈ before, o.isEnd = false

/-- The bytes that are written to an output while a writer has it open. -/
def written (stream : Stream) : List Occurrence → Bytes
  | [] => []
  | o :: os => if o.closes stream then [] else o.chunk stream ++ written stream os

variable {o : Occurrence} {os before : List Occurrence} {stream : Stream}

theorem written_of_prefix (h : before <+: os) : written stream before <+: written stream os := by
  obtain ⟨after, rfl⟩ := h
  induction before with
  | nil => exact List.nil_prefix
  | cons o before ih =>
    rw [List.cons_append, written, written]
    split
    · exact List.prefix_rfl
    · exact (List.prefix_append_right_inj _).2 ih

theorem not_expiresInTime_nil : ¬ ExpiresInTime [] := by
  rintro ⟨before, after, h, -⟩
  simp at h

theorem expiresInTime_cons_iff :
    ExpiresInTime (o :: os) ↔ o = expired ∨ o.isEnd = false ∧ ExpiresInTime os := by
  constructor
  · rintro ⟨before, after, h, hbefore⟩
    cases before with
    | nil => exact .inl (List.cons.inj h).1
    | cons o' before =>
      obtain ⟨rfl, rfl⟩ := List.cons.inj h
      rw [List.forall_mem_cons] at hbefore
      exact .inr ⟨hbefore.1, before, after, rfl, hbefore.2⟩
  · rintro (rfl | ⟨ho, before, after, rfl, hbefore⟩)
    · exact ⟨[], os, rfl, by simp⟩
    · exact ⟨o :: before, after, rfl, List.forall_mem_cons.2 ⟨ho, hbefore⟩⟩

end Occurrence

/-! ### What happens to a pipe -/

namespace Pipe

variable (pipe : Pipe)

/-- All bytes that came into the pipe, wherever they are. -/
def held : Bytes := pipe.taken ++ (pipe.buffer ++ pipe.waiting)

/-- Nothing is left of the pipe, and nothing will come. -/
def IsSpent : Prop := pipe.isOpen = false ∧ pipe.buffer = [] ∧ pipe.waiting = []

@[simp] theorem isOpen_fill : pipe.fill.isOpen = pipe.isOpen := by
  rw [fill]
  split <;> rfl

@[simp] theorem isDone_fill : pipe.fill.isDone = pipe.isDone := by
  rw [fill]
  split <;> rfl

@[simp] theorem taken_fill : pipe.fill.taken = pipe.taken := by
  rw [fill]
  split <;> rfl

/-- What the reader takes it takes from the front. -/
theorem buffer_append_waiting_fill : pipe.fill.buffer ++ pipe.fill.waiting = pipe.buffer ++ pipe.waiting := by
  rw [fill]
  split
  next hempty => rw [List.take_append_drop, hempty, List.nil_append]
  next => rfl

/-- A reader that was asked and has nothing found nothing. -/
theorem eq_nil_of_buffer_fill (h : pipe.fill.buffer = []) : pipe.buffer = [] ∧ pipe.waiting = [] := by
  rw [fill] at h
  split at h
  next hempty => exact ⟨hempty, by simpa [pageSize] using h⟩
  next hne => exact absurd h hne

@[simp] theorem taken_handOn : pipe.handOn.taken = pipe.taken ++ pipe.buffer := by
  simp [handOn, taken]

@[simp] theorem held_fill : pipe.fill.held = pipe.held := by
  rw [held, held, taken_fill, buffer_append_waiting_fill]

@[simp] theorem held_handOn : pipe.handOn.held = pipe.held := by
  rw [held, held, taken_handOn, List.append_assoc]
  rfl

/-- What a read makes of a pipe that is not done: nothing is handed on while something may still come, and
otherwise what the reader has. -/
theorem read_of_not_isDone (h : pipe.isDone = false) :
    pipe.read = if pipe.fill.isPending then pipe.fill else pipe.fill.handOn := by
  rw [read, h]
  rfl

/-- A pipe that is done is spent, if it had no error. -/
def IsSound (pipe : Pipe) (hasError : Bool) : Prop := pipe.isDone = true → hasError = true ∨ pipe.IsSpent

/-- What an occurrence makes of the pipe of an output; with each pipe it is said whether it had an error. -/
structure Follows (stream : Stream) (o : Occurrence) (old new : Pipe × Bool) : Prop where
  /-- Bytes come in by writing only, and behind all others. -/
  held : new.1.held = old.1.held ++ if old.1.isOpen then o.chunk stream else []
  isOpen : new.1.isOpen = (old.1.isOpen && !o.closes stream)
  /-- What was handed on is not taken back. -/
  taken : old.1.taken <+: new.1.taken
  isSound : old.1.IsSound old.2 → new.1.IsSound new.2

variable {pipe} {stream : Stream} {hasError : Bool}

theorem follows_of_idle {o : Occurrence} (hchunk : o.chunk stream = []) (hcloses : o.closes stream = false) :
    Follows stream o (pipe, hasError) (pipe, hasError) where
  held := by rw [hchunk, ite_self, List.append_nil]
  isOpen := by rw [hcloses, Bool.not_false, Bool.and_true]
  taken := List.prefix_rfl
  isSound := id

theorem follows_write (bytes : Bytes) :
    Follows stream (.wrote stream bytes) (pipe, hasError) (pipe.write bytes, hasError) := by
  rw [write]
  split
  next hopen =>
    refine ⟨?_, ?_, List.prefix_rfl, fun hsound hdone => ?_⟩
    · simp [Pipe.held, Pipe.taken, Occurrence.chunk, hopen]
    · simp [Occurrence.closes]
    · exact (hsound hdone).imp_right fun hspent => absurd (hspent.1.symm.trans hopen) Bool.false_ne_true
  next hopen => exact ⟨by simp [hopen], by simp [hopen], List.prefix_rfl, id⟩

theorem follows_close : Follows stream (.closed stream) (pipe, hasError) (pipe.close, hasError) where
  held := by simp [Pipe.held, Pipe.taken, close, Occurrence.chunk]
  isOpen := by simp [close, Occurrence.closes]
  taken := List.prefix_rfl
  isSound hsound hdone := (hsound hdone).imp_right fun hspent => ⟨rfl, hspent.2⟩

theorem follows_fill {o : Occurrence} (hchunk : o.chunk stream = []) (hcloses : o.closes stream = false)
    (hdone : pipe.isDone = false) : Follows stream o (pipe, hasError) (pipe.fill, hasError) where
  held := by rw [hchunk, ite_self, List.append_nil, held_fill]
  isOpen := by rw [hcloses, Bool.not_false, Bool.and_true, isOpen_fill]
  taken := ⟨[], by rw [taken_fill, List.append_nil]⟩
  isSound _ hnew := absurd ((pipe.isDone_fill.symm.trans hnew).symm.trans hdone) (Bool.false_ne_true).symm

/-- **A read that is through hands on what comes first**, and finds the end only if nothing is left. -/
theorem follows_read : Follows stream (.read stream) (pipe, hasError) (pipe.read, hasError) := by
  cases hdone : pipe.isDone with
  | true =>
    rw [read, if_pos hdone]
    exact follows_of_idle rfl rfl
  | false =>
    rw [read_of_not_isDone pipe hdone]
    split
    next => exact follows_fill rfl rfl hdone
    next hpending =>
      refine ⟨?_, ?_, ?_, fun _ hnew => .inr ?_⟩
      · simp [Occurrence.chunk]
      · simp [handOn, Occurrence.closes]
      · simp
      · have hbuffer : pipe.fill.buffer = [] := by simpa [handOn, hdone] using hnew
        have hopen : pipe.isOpen = false := by simpa [isPending, hbuffer] using hpending
        obtain ⟨-, hwaiting⟩ := pipe.eq_nil_of_buffer_fill hbuffer
        have hrest : pipe.fill.waiting = [] := by
          rw [fill]
          split <;> simp [hwaiting]
        exact ⟨by simpa [handOn] using hopen, rfl, hrest⟩

/-- **A read that is dropped loses nothing:** what it took comes first in the next one. -/
theorem follows_cancel : Follows stream (.cancelled stream) (pipe, hasError) (pipe.cancel, hasError) := by
  rw [cancel]
  split
  next => exact follows_of_idle rfl rfl
  next hdone => exact follows_fill rfl rfl (Bool.eq_false_iff.2 hdone)

theorem follows_giveUp (err : ReadError) :
    Follows stream (.readFailed err) (pipe, hasError) (pipe.giveUp, true) where
  held := by simp [Pipe.held, Pipe.taken, giveUp, Occurrence.chunk]
  isOpen := by simp [giveUp, Occurrence.closes]
  taken := List.prefix_rfl
  isSound _ _ := .inl rfl

end Pipe

/-! ### What happens to the watch -/

namespace Watch

open Occurrence (ExpiresInTime written)

variable {watch : Watch} {o : Occurrence} {os before : List Occurrence} {stream : Stream}

theorem run_cons (watch : Watch) (o : Occurrence) (os : List Occurrence) :
    watch.run (o :: os) = (watch.step o).run os := rfl

theorem run_append (watch : Watch) (before after : List Occurrence) :
    watch.run (before ++ after) = (watch.run before).run after :=
  List.foldl_append

/-- The output could not be read at some time. -/
def hasError (watch : Watch) (stream : Stream) : Bool := watch.errors.any fun err => err.stream = stream

theorem pipe_onPipe (watch : Watch) (change : Pipe → Pipe) (s stream : Stream) :
    (watch.onPipe change s).pipe stream = if s = stream then change (watch.pipe stream) else watch.pipe stream := by
  cases s <;> cases stream <;> rfl

@[simp] theorem hasError_onPipe (watch : Watch) (change : Pipe → Pipe) (s stream : Stream) :
    (watch.onPipe change s).hasError stream = watch.hasError stream := by
  cases s <;> rfl

@[simp] theorem pipe_settle (watch : Watch) (stream : Stream) : watch.settle.pipe stream = watch.pipe stream := by
  rw [settle]
  split
  · split <;> cases stream <;> rfl
  · rfl

@[simp] theorem hasError_settle (watch : Watch) (stream : Stream) :
    watch.settle.hasError stream = watch.hasError stream := by
  rw [settle]
  split
  · split <;> rfl
  · rfl

theorem pipe_fail (watch : Watch) (err : ReadError) (stream : Stream) :
    (watch.fail err).pipe stream
      = if err.stream = stream then (watch.pipe stream).giveUp else watch.pipe stream := by
  rw [← pipe_onPipe]
  cases stream <;> rfl

theorem hasError_fail (watch : Watch) (err : ReadError) (stream : Stream) :
    (watch.fail err).hasError stream = (watch.hasError stream || decide (err.stream = stream)) := by
  simp [fail, hasError]

/-- **Each occurrence does to a pipe what it says**, and nothing to the other. -/
theorem follows_step (watch : Watch) (o : Occurrence) (stream : Stream) :
    Pipe.Follows stream o (watch.pipe stream, watch.hasError stream)
      ((watch.step o).pipe stream, (watch.step o).hasError stream) := by
  cases o with
  | wrote s bytes =>
    rw [step, hasError_onPipe, pipe_onPipe]
    split
    next h => exact h ▸ Pipe.follows_write bytes
    next h => exact Pipe.follows_of_idle (if_neg h) rfl
  | closed s =>
    rw [step, hasError_onPipe, pipe_onPipe]
    split
    next h => exact h ▸ Pipe.follows_close
    next h => exact Pipe.follows_of_idle rfl (decide_eq_false h)
  | read s =>
    rw [step]
    split
    · rw [pipe_settle, hasError_settle, hasError_onPipe, pipe_onPipe]
      split
      next h => exact h ▸ Pipe.follows_read
      next => exact Pipe.follows_of_idle rfl rfl
    · exact Pipe.follows_of_idle rfl rfl
  | readFailed err =>
    rw [step]
    split
    · rw [pipe_settle, hasError_settle, hasError_fail, pipe_fail]
      split
      next h =>
        rw [decide_eq_true h, Bool.or_true]
        exact Pipe.follows_giveUp err
      next h =>
        rw [decide_eq_false h, Bool.or_false]
        exact Pipe.follows_of_idle rfl rfl
    · exact Pipe.follows_of_idle rfl rfl
  | cancelled s =>
    rw [step]
    split
    · rw [hasError_onPipe, pipe_onPipe]
      split
      next h => exact h ▸ Pipe.follows_cancel
      next => exact Pipe.follows_of_idle rfl rfl
    · exact Pipe.follows_of_idle rfl rfl
  | expired =>
    rw [step]
    split
    · split <;> exact Pipe.follows_of_idle rfl rfl
    · exact Pipe.follows_of_idle rfl rfl
  | ended wait =>
    rw [step]
    split
    · rw [pipe_settle, hasError_settle]
      exact Pipe.follows_of_idle rfl rfl
    · exact Pipe.follows_of_idle rfl rfl
  | drained =>
    rw [step]
    split <;> exact Pipe.follows_of_idle rfl rfl

/-- **No byte is lost, comes twice or changes over**: those in a pipe, wherever they are, are those that were
there and those that were written since. -/
theorem held_run (watch : Watch) (os : List Occurrence) (stream : Stream) :
    ((watch.run os).pipe stream).held
      = (watch.pipe stream).held ++ if (watch.pipe stream).isOpen then written stream os else [] := by
  induction os generalizing watch with
  | nil => simp [run, written]
  | cons o os ih =>
    have hstep := follows_step watch o stream
    rw [run_cons, ih, hstep.held, hstep.isOpen, written]
    cases hopen : (watch.pipe stream).isOpen <;> cases hcloses : o.closes stream <;> simp
    -- What closes a pipe writes nothing.
    cases o <;> simp_all [Occurrence.closes, Occurrence.chunk]

theorem taken_prefix_run (watch : Watch) (os : List Occurrence) (stream : Stream) :
    (watch.pipe stream).taken <+: ((watch.run os).pipe stream).taken := by
  induction os generalizing watch with
  | nil => exact List.prefix_rfl
  | cons o os ih => exact (follows_step watch o stream).taken.trans (ih (watch.step o))

theorem isSound_run (h : (watch.pipe stream).IsSound (watch.hasError stream)) (os : List Occurrence) :
    ((watch.run os).pipe stream).IsSound ((watch.run os).hasError stream) := by
  induction os generalizing watch with
  | nil => exact h
  | cons o os ih => exact ih ((follows_step watch o stream).isSound h)

/-! ### The limit -/

/-- How long the binary may run, whether that is over, and how often it was killed. -/
def clock (watch : Watch) : Option Duration × Bool × Nat := (watch.limit, watch.isExpired, watch.kills)

@[simp] theorem clock_onPipe (watch : Watch) (change : Pipe → Pipe) (s : Stream) :
    (watch.onPipe change s).clock = watch.clock := by
  cases s <;> rfl

@[simp] theorem clock_fail (watch : Watch) (err : ReadError) : (watch.fail err).clock = watch.clock :=
  watch.clock_onPipe Pipe.giveUp err.stream

@[simp] theorem clock_settle (watch : Watch) : watch.settle.clock = watch.clock := by
  rw [settle]
  split
  · split <;> rfl
  · rfl

/-- The limit runs out while the binary is running, and for the first time. -/
def CanExpire (watch : Watch) : Prop :=
  watch.phase.hasEnded = false ∧ watch.limit.isSome = true ∧ watch.isExpired = false

/-- Only the end of the limit concerns the clock; if it can be, the binary is killed. -/
theorem clock_step (watch : Watch) (o : Occurrence) :
    (o = .expired ∧ watch.CanExpire ∧ (watch.step o).clock = (watch.limit, true, watch.kills + 1)) ∨
      (¬ (o = .expired ∧ watch.CanExpire) ∧ (watch.step o).clock = watch.clock) := by
  cases o with
  | wrote s bytes | closed s => exact .inr ⟨by simp, clock_onPipe _ _ _⟩
  | read s | readFailed err | cancelled s =>
    refine .inr ⟨by simp, ?_⟩
    rw [step]
    split <;> simp
  | expired =>
    rw [step, CanExpire]
    split
    next hphase =>
      split
      next h => exact .inl ⟨rfl, ⟨by rw [hphase]; rfl, h⟩, rfl⟩
      next h => exact .inr ⟨fun hcan => h hcan.2.2, rfl⟩
    next hphase =>
      refine .inr ⟨fun hcan => ?_, rfl⟩
      cases hwatch : watch.phase with
      | running => exact hphase hwatch
      | draining wait | finished wait => exact absurd (hwatch ▸ hcan.2.1) (by simp [Phase.hasEnded])
  | ended wait =>
    refine .inr ⟨by simp, ?_⟩
    rw [step]
    split
    · rw [clock_settle]
      rfl
    · rfl
  | drained =>
    refine .inr ⟨by simp, ?_⟩
    rw [step]
    split <;> rfl

theorem limit_step (watch : Watch) (o : Occurrence) : (watch.step o).limit = watch.limit := by
  rcases watch.clock_step o with ⟨-, -, hclock⟩ | ⟨-, hclock⟩
  · exact congrArg Prod.fst hclock
  · exact congrArg Prod.fst hclock

theorem limit_run (watch : Watch) (os : List Occurrence) : (watch.run os).limit = watch.limit := by
  induction os generalizing watch with
  | nil => rfl
  | cons o os ih => rw [run_cons, ih, limit_step]

theorem isExpired_step_iff (watch : Watch) (o : Occurrence) :
    (watch.step o).isExpired = true ↔ watch.isExpired = true ∨
      watch.limit.isSome = true ∧ watch.phase.hasEnded = false ∧ o = .expired := by
  rcases watch.clock_step o with ⟨ho, ⟨hrunning, hlimit, -⟩, hclock⟩ | ⟨hnot, hclock⟩
  · simp only [clock, Prod.mk.injEq] at hclock
    exact ⟨fun _ => .inr ⟨hlimit, hrunning, ho⟩, fun _ => hclock.2.1⟩
  · simp only [clock, Prod.mk.injEq] at hclock
    rw [hclock.2.1]
    refine ⟨.inl, fun h => h.elim id fun ⟨hlimit, hrunning, ho⟩ => ?_⟩
    exact eq_true_of_ne_false fun hexpired => hnot ⟨ho, hrunning, hlimit, hexpired⟩

/-- **The binary is killed once if the limit ran out**, and otherwise never. -/
theorem kills_run (h : watch.kills = watch.isExpired.toNat) (os : List Occurrence) :
    (watch.run os).kills = (watch.run os).isExpired.toNat := by
  induction os generalizing watch with
  | nil => exact h
  | cons o os ih =>
    refine ih ?_
    rcases watch.clock_step o with ⟨-, ⟨-, -, hexpired⟩, hclock⟩ | ⟨-, hclock⟩
    · simp only [clock, Prod.mk.injEq] at hclock
      rw [hclock.2.1, hclock.2.2, h, hexpired]
      rfl
    · simp only [clock, Prod.mk.injEq] at hclock
      rw [hclock.2.1, hclock.2.2, h]

/-- **The limit ran out iff it did so before the end was observed.** -/
theorem isExpired_run_iff (watch : Watch) (os : List Occurrence) :
    (watch.run os).isExpired = true ↔ watch.isExpired = true ∨
      watch.limit.isSome = true ∧ watch.phase.hasEnded = false ∧ ExpiresInTime os := by
  induction os generalizing watch with
  | nil => simp [run, Occurrence.not_expiresInTime_nil]
  | cons o os ih =>
    rw [run_cons, ih, isExpired_step_iff, limit_step, hasEnded_step, Bool.or_eq_false_iff,
      Occurrence.expiresInTime_cons_iff]
    simp only [or_assoc, and_or_left, and_assoc]

/-! ### The end -/

/-- Late output is awaited only as long as some pipe is not done. -/
def IsSettled (watch : Watch) : Prop := ∀ wait, watch.phase = .draining wait → watch.isDone = false

theorem isSettled_settle (watch : Watch) : watch.settle.IsSettled := by
  rw [settle]
  split
  next wait hphase =>
    split
    next =>
      intro wait hphase
      cases hphase
    next hdone => exact fun _ _ => Bool.eq_false_iff.2 hdone
  next hnot => exact fun wait h => absurd h (hnot wait)

theorem IsSettled.onPipe (h : watch.IsSettled) {change : Pipe → Pipe}
    (hchange : ∀ pipe, (change pipe).isDone = pipe.isDone) (s : Stream) : (watch.onPipe change s).IsSettled := by
  intro wait hphase
  rw [phase_onPipe] at hphase
  have hdone := h wait hphase
  cases s <;> simpa [isDone, Watch.onPipe, hchange] using hdone

theorem IsSettled.step (h : watch.IsSettled) (o : Occurrence) : (watch.step o).IsSettled := by
  cases o with
  | wrote s bytes =>
    refine h.onPipe (fun pipe => ?_) s
    rw [Pipe.write]
    split <;> rfl
  | closed s =>
    have hclose : ∀ pipe : Pipe, pipe.close.isDone = pipe.isDone := fun _ => rfl
    exact h.onPipe hclose s
  | read s | readFailed err =>
    rw [Watch.step]
    split
    · exact isSettled_settle _
    · exact h
  | cancelled s =>
    rw [Watch.step]
    split
    · refine h.onPipe (fun pipe => ?_) s
      rw [Pipe.cancel]
      split <;> simp
    · exact h
  | expired =>
    rw [Watch.step]
    split
    · split <;> exact h
    · exact h
  | ended wait =>
    rw [Watch.step]
    split
    · exact isSettled_settle _
    · exact h
  | drained =>
    rw [Watch.step]
    split
    · intro wait hphase
      cases hphase
    · exact h

theorem IsSettled.run (h : watch.IsSettled) (os : List Occurrence) : (watch.run os).IsSettled := by
  induction os generalizing watch with
  | nil => exact h
  | cons o os ih => exact ih (h.step o)

theorem outcome?_eq_some_iff {outcome : Outcome} :
    watch.outcome? = some outcome ↔ watch.phase = .finished outcome.wait ∧
      outcome.stdout = (watch.pipe .out).taken ∧ outcome.stderr = (watch.pipe .err).taken ∧
      outcome.expired = if watch.isExpired then watch.limit else none := by
  obtain ⟨wait, stdout, stderr, expired⟩ := outcome
  rw [outcome?]
  split
  next wait' hphase =>
    simp only [hphase, Option.some.injEq, Outcome.mk.injEq, Phase.finished.injEq, pipe]
    exact and_congr_right fun _ => and_congr eq_comm (and_congr eq_comm eq_comm)
  next hnot =>
    refine ⟨fun h => ?_, fun h => absurd h.1 (hnot wait)⟩
    cases h

/-- **Once the end was observed and both pipes are done, nothing more is awaited.** -/
theorem IsSettled.exists_outcome? (h : watch.IsSettled) (hended : watch.phase.hasEnded = true)
    (hdone : watch.isDone = true) : ∃ outcome, watch.outcome? = some outcome := by
  cases hphase : watch.phase with
  | running =>
    rw [hphase] at hended
    exact absurd hended Bool.false_ne_true
  | draining wait => exact absurd ((h wait hphase).symm.trans hdone) Bool.false_ne_true
  | finished wait => exact ⟨_, by rw [outcome?, hphase]⟩

/-! ### A whole run -/

section Start

variable (limit : Option Duration) (os : List Occurrence) (stream : Stream)

theorem held_start_run : (((start limit).run os).pipe stream).held = written stream os := by
  have hfresh : (start limit).pipe stream = .fresh := by cases stream <;> rfl
  rw [held_run, hfresh]
  rfl

theorem isSpent_start_run (hdone : (((start limit).run os).pipe stream).isDone = true)
    (herror : ((start limit).run os).hasError stream = false) : (((start limit).run os).pipe stream).IsSpent := by
  have hstart : ((start limit).pipe stream).IsSound ((start limit).hasError stream) := by
    cases stream <;> exact fun h => absurd h Bool.false_ne_true
  refine (isSound_run hstart os hdone).resolve_left fun h => ?_
  exact absurd (herror.symm.trans h) Bool.false_ne_true

/-- **A pipe that is done without an error was captured whole.** -/
theorem taken_start_run (hdone : (((start limit).run os).pipe stream).isDone = true)
    (herror : ((start limit).run os).hasError stream = false) :
    (((start limit).run os).pipe stream).taken = written stream os := by
  obtain ⟨-, hbuffer, hwaiting⟩ := isSpent_start_run limit os stream hdone herror
  rw [← held_start_run limit os stream, Pipe.held, hbuffer, hwaiting, List.append_nil, List.append_nil]

theorem isExpired_start_run_iff :
    ((start limit).run os).isExpired = true ↔ limit.isSome = true ∧ ExpiresInTime os := by
  rw [isExpired_run_iff]
  exact ⟨fun h => h.elim (fun h => absurd h Bool.false_ne_true) fun h => ⟨h.1, h.2.2⟩,
    fun h => .inr ⟨h.1, rfl, h.2⟩⟩

/-- **The outcome names the limit iff it ran out in time.** -/
theorem expired_start_run_iff {outcome : Outcome} (h : ((start limit).run os).outcome? = some outcome)
    (duration : Duration) : outcome.expired = some duration ↔ limit = some duration ∧ ExpiresInTime os := by
  obtain ⟨-, -, -, hremark⟩ := outcome?_eq_some_iff.1 h
  have hlimit : ((start limit).run os).limit = limit := limit_run _ os
  rw [hremark, hlimit]
  constructor
  · intro hnamed
    split at hnamed
    next hexpired => exact ⟨hnamed, ((isExpired_start_run_iff limit os).1 hexpired).2⟩
    next => cases hnamed
  · rintro ⟨rfl, htime⟩
    rw [if_pos ((isExpired_start_run_iff _ os).2 ⟨rfl, htime⟩)]

/-- **Both outputs are captured whole** if they came to their ends without an error. -/
theorem exists_outcome?_start_run (hwait : ∃ wait, .ended wait ∈ os) (hdone : ((start limit).run os).isDone = true)
    (herrors : ((start limit).run os).errors = []) :
    ∃ outcome, ((start limit).run os).outcome? = some outcome ∧
      outcome.stdout = written .out os ∧ outcome.stderr = written .err os := by
  have hended : ((start limit).run os).phase.hasEnded = true := by
    obtain ⟨wait, hmem⟩ := hwait
    rw [hasEnded_run]
    exact Bool.or_eq_true_iff.2 (.inr (List.any_eq_true.2 ⟨_, hmem, rfl⟩))
  have hsettled : (start limit).IsSettled := by
    intro wait hphase
    cases hphase
  obtain ⟨outcome, houtcome⟩ := (hsettled.run os).exists_outcome? hended hdone
  obtain ⟨-, hstdout, hstderr, -⟩ := outcome?_eq_some_iff.1 houtcome
  have herror : ∀ stream, ((start limit).run os).hasError stream = false := by
    intro stream
    rw [hasError, herrors]
    rfl
  obtain ⟨hout, herr⟩ := Bool.and_eq_true_iff.1 hdone
  refine ⟨outcome, houtcome, ?_, ?_⟩
  · rw [hstdout, taken_start_run limit os .out hout (herror .out)]
  · rw [hstderr, taken_start_run limit os .err herr (herror .err)]

end Start

/-- **What is captured is what was written, under every schedule.**  At every moment what was handed on of an output
is the first of what was written to it, and all the rest is with the reader or in the pipe; it only ever grows.  If
the end was observed, both pipes are done, and none had an error, everything was captured.  The binary is killed at
most once, and then because the limit ran out before its end was observed; just then the outcome says so. -/
theorem run_faithful (limit : Option Duration) (os : List Occurrence) :
    (∀ stream,
      (((start limit).run os).pipe stream).taken <+: written stream os ∧
      (((start limit).run os).pipe stream).taken ++ ((((start limit).run os).pipe stream).buffer
        ++ (((start limit).run os).pipe stream).waiting) = written stream os) ∧
    (∀ before, before <+: os → ∀ stream,
      (((start limit).run before).pipe stream).taken <+: (((start limit).run os).pipe stream).taken ∧
      written stream before <+: written stream os) ∧
    (∀ outcome, ((start limit).run os).outcome? = some outcome →
      outcome.stdout = (((start limit).run os).pipe .out).taken ∧
      outcome.stderr = (((start limit).run os).pipe .err).taken ∧
      ∀ duration, outcome.expired = some duration ↔ limit = some duration ∧ ExpiresInTime os) ∧
    ((∃ wait, .ended wait ∈ os) → ((start limit).run os).isDone = true → ((start limit).run os).errors = [] →
      ∃ outcome, ((start limit).run os).outcome? = some outcome ∧
        outcome.stdout = written .out os ∧ outcome.stderr = written .err os) ∧
    ((start limit).run os).kills ≤ 1 ∧
    (((start limit).run os).kills = 1 ↔ limit.isSome = true ∧ ExpiresInTime os) := by
  have hkills : ((start limit).run os).kills = ((start limit).run os).isExpired.toNat := kills_run rfl os
  refine ⟨fun stream => ⟨⟨_, held_start_run limit os stream⟩, held_start_run limit os stream⟩, ?_, ?_,
    exists_outcome?_start_run limit os, ?_, ?_⟩
  · rintro before ⟨after, rfl⟩ stream
    rw [run_append]
    exact ⟨taken_prefix_run _ after stream, Occurrence.written_of_prefix (List.prefix_append before after)⟩
  · intro outcome houtcome
    obtain ⟨-, hstdout, hstderr, -⟩ := outcome?_eq_some_iff.1 houtcome
    exact ⟨hstdout, hstderr, expired_start_run_iff limit os houtcome⟩
  · rw [hkills]
    exact Bool.toNat_le _
  · rw [hkills, ← isExpired_start_run_iff]
    cases ((start limit).run os).isExpired <;> simp

/-- A binary that writes to both outputs, is killed, and leaves output behind; a read is dropped after it took some
of it. -/
def killedLeaving : List Occurrence :=
  [.wrote .out [1, 2], .cancelled .out, .wrote .out [3], .wrote .err [9], .read .out, .expired,
    .ended (.ok (.ofSignal 9)), .expired, .closed .out, .closed .err, .read .err, .read .out, .read .out,
    .cancelled .err, .read .err, .drained]

theorem expiresInTime_killedLeaving : ExpiresInTime killedLeaving :=
  ⟨killedLeaving.take 5, killedLeaving.drop 6, rfl, by decide⟩

/-- Both its outputs are captured whole, and the outcome names the limit. -/
theorem run_faithful_killedLeaving : ∃ outcome,
    ((start (some ⟨2, 0⟩)).run killedLeaving).outcome? = some outcome ∧
    outcome.stdout = [1, 2, 3] ∧ outcome.stderr = [9] ∧ outcome.expired = some ⟨2, 0⟩ := by
  obtain ⟨-, -, houtcomes, hcomplete, -⟩ := run_faithful (some ⟨2, 0⟩) killedLeaving
  have hended : ∃ wait, .ended wait ∈ killedLeaving := ⟨.ok (.ofSignal 9), by simp [killedLeaving]⟩
  obtain ⟨outcome, houtcome, hstdout, hstderr⟩ := hcomplete hended (by decide) (by decide)
  obtain ⟨-, -, hexpired⟩ := houtcomes outcome houtcome
  exact ⟨outcome, houtcome, hstdout, hstderr, (hexpired _).2 ⟨rfl, expiresInTime_killedLeaving⟩⟩

end Watch
end Run
end TestBench
