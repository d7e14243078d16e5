/-
# A binary that writes what it likes

Whatever bytes a test binary writes, they can be captured: `typing` is a course in which each byte is read as soon as
it is written, and `outcome?_typing` says that it leaves all of them.  The induction is on the bytes; the pipe is empty
between any two of them (`run_typed`).

`sprawlingOutput` is what a binary writes whose rows cannot be padded: `judge_sprawling` says that it is judged as the
execution `Report.sprawling`.
-/

import TestBench.Proofs.Protocol.Noise
import TestBench.Proofs.Protocol.RoundTrip
import TestBench.Proofs.Report.Padding
import TestBench.Proofs.Run.Capture
import TestBench.Proofs.Run.Verdict

namespace TestBench
namespace Run

/-! ### Typing -/

/-- The bytes are written one by one, and each is read at once. -/
def typed (output : Bytes) : List Occurrence :=
  output.flatMap fun b => [.wrote .out [b], .read .out]

/-- A binary writes these bytes and ends well. -/
def typing (output : Bytes) : List Occurrence :=
  typed output ++ [.closed .out, .closed .err, .ended (.ok (.ofCode 0)), .read .out, .read .err]

/-- A binary that runs and has written these pieces, of which all were read. -/
def typedSoFar (limit : Option Duration) (pieces : List Bytes) : Watch :=
  { Watch.start limit with out := { Pipe.fresh with pieces } }

/-- **Each byte is captured** when it is written. -/
theorem run_typed (limit : Option Duration) (pieces : List Bytes) (output : Bytes) :
    (typedSoFar limit pieces).run (typed output)
      = typedSoFar limit ((output.map fun b => [b]).reverse ++ pieces) := by
  induction output generalizing pieces with
  | nil => rfl
  | cons b output ih =>
    have hbyte : (typedSoFar limit pieces).run (typed (b :: output))
        = (typedSoFar limit ([b] :: pieces)).run (typed output) := rfl
    rw [hbyte, ih, List.map_cons, List.reverse_cons, List.append_assoc]
    rfl

/-- What was captured of a binary that wrote these bytes and ended well. -/
def Outcome.ofOutput (stdout : Bytes) : Outcome :=
  { wait := .ok (.ofCode 0), stdout, stderr := [], expired := none }

/-- Behind what was captured the end of both pipes is read. -/
theorem outcome?_typedSoFar (limit : Option Duration) (pieces : List Bytes) :
    ((typedSoFar limit pieces).run
      [.closed .out, .closed .err, .ended (.ok (.ofCode 0)), .read .out, .read .err]).outcome?
        = some (.ofOutput (([] :: pieces).reverse.flatten)) := rfl

theorem outcome?_typing (limit : Option Duration) (output : Bytes) :
    ((Watch.start limit).run (typing output)).outcome? = some (.ofOutput output) := by
  have hstart : Watch.start limit = typedSoFar limit [] := rfl
  have hbytes : (output.map fun b => [b]).flatten = output := by
    rw [← List.flatMap_def, List.flatMap_singleton']
  rw [typing, Watch.run_append, hstart, run_typed, outcome?_typedSoFar, List.append_nil, List.reverse_cons,
    List.reverse_reverse, List.flatten_append, hbytes, List.flatten_singleton, List.append_nil]

/-- Every binary writes these bytes and ends well. -/
def Supervisor.typing (output : Bytes) : Supervisor := fun _ _ limit _ =>
  .ok { occurrences := Run.typing output, nanoseconds := 0
        finishes := by rw [outcome?_typing]; rfl }

theorem Course.outcome_typing {limit : Option Duration} {output : Bytes} {course : Course limit}
    (h : course.occurrences = typing output) : course.outcome = .ofOutput output := by
  have hsome : ((Watch.start limit).run course.occurrences).outcome? = some (.ofOutput output) := by
    rw [h, outcome?_typing]
  exact Option.get_of_eq_some course.finishes hsome

/-- **What is captured** of a binary that writes these bytes is these bytes. -/
theorem outcome_attempt_typing {runner : Runner} {output : Bytes} (h : runner.supervisor = .typing output)
    (host : Host) (path : Text) : (runner.attempt host path).map Course.outcome = .ok (.ofOutput output) := by
  rcases runner with ⟨threads, limit, environment, supervisor, order⟩
  obtain rfl : supervisor = .typing output := h
  have houtcome : ∀ course : Course limit, course.occurrences = Run.typing output →
      course.outcome = .ofOutput output := fun _ => Course.outcome_typing
  show Except.ok (Course.outcome _) = _
  rw [houtcome _ rfl]

theorem execution_runOne_typing {runner : Runner} {output : Bytes} (h : runner.supervisor = .typing output)
    (host : Host) (path : Text) : (runner.runOne host path).execution = ((Outcome.ofOutput output).judge path).1 := by
  have houtcome := outcome_attempt_typing h host path
  rw [Runner.runOne]
  cases hattempt : runner.attempt host path with
  | error err =>
    rw [hattempt] at houtcome
    cases houtcome
  | ok course =>
    rw [hattempt] at houtcome
    rw [← Except.ok.inj houtcome]

/-! ### Sprawling -/

open Protocol (Line Bare LineEnd record)

/-- A line that reports a case of this name. -/
def passLine (name : Text) : Line :=
  { location := "a.c".toList, number := 1, name, kind := .closing .pass, message := none }

/-- A line that reports a case with a message. -/
def boomLine : Line :=
  { location := "a.c".toList, number := 2, name := "y".toList, kind := .closing .fail, message := some "boom".toList }

theorem not_hidesNumber : ¬Protocol.HidesNumber "a.c".toList := by
  rintro ⟨before, number, after, -, -, -, heq⟩
  have hcolons := congrArg (List.count ':') heq
  have hone : List.count ':' ("a.c".toList ++ [':']) = 1 := by decide
  rw [hone, List.count_append, List.count_cons_self, List.count_append, List.count_cons_self] at hcolons
  omega

section

variable {name : Text}

theorem writable_passLine (h : ∀ c ∈ name, c = 'x') : (passLine name).Writable where
  number_lt := (by decide : 1 < 2 ^ 32)
  colon_notMem_name hcolon := absurd (h ':' hcolon) (by decide)
  name_begins c hc := by
    rw [h c (List.mem_of_mem_head? hc)]
    rfl
  name_ends c hc := by
    rw [h c (List.mem_of_mem_getLast? hc)]
    rfl
  message_ne_nil h := by cases h
  newline_notMem_message _ h := by cases h
  message_begins _ h := by cases h

theorem write_passLine : (passLine name).write = "a.c:1:PASS:".toList ++ name ++ [] := rfl

theorem bare_passLine (h : ∀ c ∈ name, c = 'x') (hname : name ≠ []) : Bare (passLine name).write where
  newline_notMem hline := by
    rw [write_passLine, List.append_nil, List.mem_append] at hline
    rcases hline with hfront | hname
    · revert hfront
      decide
    · exact absurd (h _ hname) (by decide)
  getLast?_ne hlast := by
    rw [write_passLine, List.append_nil, List.getLast?_append_of_ne_nil _ hname] at hlast
    exact absurd (h _ (List.mem_of_mem_getLast? hlast)) (by decide)

end

theorem writable_boomLine : boomLine.Writable where
  number_lt := by decide
  colon_notMem_name := by decide
  name_begins := by
    rintro c hc
    obtain rfl : 'y' = c := Option.some.inj hc
    rfl
  name_ends := by
    rintro c hc
    obtain rfl : 'y' = c := Option.some.inj hc
    rfl
  message_ne_nil := by decide
  newline_notMem_message := by decide
  message_begins := by
    rintro message hmessage c hc
    obtain rfl := Option.some.inj hmessage
    obtain rfl : 'b' = c := Option.some.inj hc
    rfl

theorem bare_boomLine : Bare boomLine.write where
  newline_notMem := by decide
  getLast?_ne := by decide

/-- What a binary writes that reports a case of this name, and a failed one with a message. -/
def outputNaming (name : Text) : Text := Protocol.written [((passLine name).write, .feed), (boomLine.write, .feed)]

theorem record_outputNaming {name : Text} (h : ∀ c ∈ name, c = 'x') (hname : name ≠ []) :
    record (outputNaming name) = [passLine name, boomLine] := by
  have hbare : ∀ line ∈ [((passLine name).write, LineEnd.feed), (boomLine.write, .feed)].map Prod.fst, Bare line := by
    intro line hline
    rcases List.mem_cons.1 hline with rfl | hline
    · exact bare_passLine h hname
    · rw [List.mem_singleton.1 hline]
      exact bare_boomLine
  have hlocation : "a.c".toList ≠ [] := by decide
  have hline : '\n' ∉ "a.c".toList := by decide
  have hpass := (writable_passLine h).parse?_write hlocation hline not_hidesNumber
  have hboom := writable_boomLine.parse?_write hlocation hline not_hidesNumber
  rw [outputNaming, Protocol.record_written hbare, List.map_cons, List.map_cons, List.map_nil,
    List.filterMap_cons_some hpass, List.filterMap_cons_some hboom, List.filterMap_nil]

/-- The bytes that a sprawling binary writes. -/
def sprawlingOutput : Bytes := Utf8.encode (outputNaming (List.replicate 65540 'x'))

/-- **A binary that writes these bytes** is judged as one whose rows cannot be padded. -/
theorem judge_sprawlingOutput (path : Text) :
    ((Outcome.ofOutput sprawlingOutput).judge path).1 = Report.sprawling path := by
  have hname : ∀ c ∈ List.replicate 65540 'x', c = 'x' := fun c hc => List.eq_of_mem_replicate hc
  have hne : List.replicate 65540 'x' ≠ [] := by
    rw [Ne, List.replicate_eq_nil_iff]
    decide
  rw [Outcome.judge_of_text rfl, Protocol.firstLocation?_eq, Protocol.cases_eq, record_outputNaming hname hne]
  rfl

end Run
end TestBench
