/-
# A report that does not fit

A sink that is full cuts a report off and says so.  `Truncates` says of a writing what that means, wherever
the sink is full:

| the sink takes `n` bytes | it holds | the writing comes to |
| --- | --- | --- |
| at least as many as are written without a bound | all of them | what it comes to without a bound |
| fewer | the first `n` | the refusal of the sink |

So nothing is left out before the end, nothing comes twice, and the refusal is never lost: of the whole
report on a run and of each of its parts (`truncates_parts`).  Without a bound the counts of the run are given
back, unless the case table cannot be padded: then the program crashes (`not_truncates_sprawling`).
-/

import TestBench.Proofs.Report.Padding

namespace TestBench
namespace Report

/-- Of what a writing puts into a sink without a bound, a sink that takes `n` bytes holds the first `n`;
the writing is refused iff that is not all, and comes to the result otherwise. -/
def Truncates {α : Type} (writing : Writing α) (result : Except Halt α) : Prop :=
  ∀ (n : Nat) (refusal : Text),
    (writing (.bounded n refusal)).1.taken
        = (writing .unbounded).1.taken.take (min n (writing .unbounded).1.taken.length) ∧
      (writing (.bounded n refusal)).2
        = if n < (writing .unbounded).1.taken.length then .error (.refused { cause := refusal }) else result

/-- On a sink that takes `n` bytes and passes on all that it takes. -/
theorem ending_bounded {α : Type} (n : Nat) (refusal : Text) (bytes : Bytes) (finishes : Bool) (value : α) :
    (Sink.bounded n refusal).ending bytes finishes value
      = if n < bytes.length then .error (.refused { cause := refusal })
        else if finishes then .ok value else .error .crashed := by
  rw [Sink.ending, Sink.holds_of_room_some (Sink.room_bounded n refusal)]
  by_cases hfits : bytes.length ≤ n
  · rw [if_pos (decide_eq_true hfits), if_neg (Nat.not_lt.2 hfits)]
  · rw [if_neg (by rwa [decide_eq_true_eq]), if_pos (Nat.not_le.1 hfits)]
    rfl

theorem PlaysPromptly.truncates {α : Type} {writing : Writing α} {color : Bool} {pieces : List Piece} {value : α}
    (h : PlaysPromptly writing color pieces value) :
    Truncates writing (if inRange pieces then .ok value else .error .crashed) := by
  intro n refusal
  rw [h _ (Sink.isPrompt_bounded n refusal), h _ Sink.isPrompt_unbounded, Sink.taken_push_unbounded,
    Sink.taken_push_bounded, ending_bounded, ← List.take_eq_take_min]
  exact ⟨rfl, rfl⟩

/-- A writing that cannot crash. -/
theorem Plays.truncates_of_inRange {α : Type} {writing : Writing α} {color : Bool} {pieces : List Piece} {value : α}
    (h : Plays writing color pieces value) (hrange : inRange pieces = true) : Truncates writing (.ok value) := by
  have htruncates := h.promptly.truncates
  rwa [hrange] at htruncates

section

variable (reporter : Reporter) (executions : List Run.Execution)

theorem truncates_writeReport (elapsed : Duration) :
    Truncates (reporter.writeReport executions elapsed)
      (if IsPaddable reporter.base executions then .ok (.ofExecutions executions) else .error .crashed) := by
  have hreport := (concludes_writeReport reporter executions elapsed).promptly.truncates
  simpa only [inRange_report_iff] using hreport

theorem truncates_writeCaseTable :
    Truncates (reporter.writeCaseTable executions)
      (if IsPaddable reporter.base executions then .ok () else .error .crashed) := by
  have htable := (plays_writeCaseTable reporter executions).promptly.truncates
  simpa only [inRange_caseTable_iff] using htable

/-- **A report is cut off at the capacity of its sink**, and refused iff it is longer: the whole report on a
run, and by itself the case table, each of the two sections, the summary, and the banner of a variant.  If it is
not refused, it gives the counts of the run, and each part comes to its end, but for a case table that cannot be
padded: it crashes the program. -/
theorem truncates_parts (elapsed : Duration) (stats : Stats) (elapsed? : Option Duration) (variant : Text) :
    Truncates (reporter.writeReport executions elapsed)
      (if IsPaddable reporter.base executions then .ok (.ofExecutions executions) else .error .crashed) ∧
    Truncates (reporter.writeCaseTable executions)
      (if IsPaddable reporter.base executions then .ok () else .error .crashed) ∧
    Truncates (reporter.writeTerminated executions) (.ok ()) ∧
    Truncates (reporter.writeSanitizerOutput executions) (.ok ()) ∧
    Truncates (reporter.writeSummary stats elapsed?) (.ok ()) ∧
    Truncates (reporter.writeBanner variant) (.ok ()) := by
  refine ⟨truncates_writeReport reporter executions elapsed, truncates_writeCaseTable reporter executions,
    ?_, ?_, ?_, ?_⟩
  · exact (plays_writeTerminated reporter executions).truncates_of_inRange (inRange_terminatedSection _ _)
  · exact (plays_writeSanitizerOutput reporter executions).truncates_of_inRange (inRange_sanitizerSection _ _)
  · exact (plays_writeSummary reporter stats elapsed?).truncates_of_inRange (inRange_summary _ _)
  · exact (plays_writeBanner reporter variant).truncates_of_inRange (inRange_banner _)

end

/-- A writing that crashes does not come to a value where there is room. -/
theorem Truncates.not_ok {α : Type} {writing : Writing α} (h : Truncates writing (.error .crashed)) (value : α) :
    ¬Truncates writing (.ok value) := by
  intro hok
  have hcrashed := (h (writing .unbounded).1.taken.length []).2
  rw [(hok (writing .unbounded).1.taken.length []).2, if_neg (Nat.lt_irrefl _), if_neg (Nat.lt_irrefl _)] at hcrashed
  cases hcrashed

/-- **Not every report comes to its end** on a sink that takes all of it: a row whose name lacks more than
65535 columns crashes the program, in the whole report as in the case table. -/
theorem not_truncates_sprawling :
    ¬Truncates (Reporter.writeReport { color := false, base := none } [sprawling []] ⟨0, 0⟩)
      (.ok (.ofExecutions [sprawling []])) ∧
    ¬Truncates (Reporter.writeCaseTable { color := false, base := none } [sprawling []]) (.ok ()) := by
  have hreport := truncates_writeReport { color := false, base := none } [sprawling []] ⟨0, 0⟩
  have htable := truncates_writeCaseTable { color := false, base := none } [sprawling []]
  rw [if_neg (not_isPaddable_sprawling none [])] at hreport htable
  exact ⟨hreport.not_ok _, htable.not_ok _⟩

end Report
end TestBench
