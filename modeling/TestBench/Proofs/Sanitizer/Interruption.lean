/-
# A session whose output is cut off

A sink that is full ends the session.  What the session has done by then can be told from where the sink
became full:

| the sink becomes full | the variant |
| --- | --- |
| before the end of its banner | is not built |
| in its report | was built, and its binaries were run |
| behind its report, or never | was built, run and reported |

A variant's banner ends behind the reports of all variants before it (`Plan.upToBanner`), if these can be written at
all: a session that crashes writes no banner behind the report that crashed it.  The builds that were triggered, and
the binaries that were run, are those of the first variants, as far as their banners are written and the sink takes
them (`exists_reached`, by induction on the variants; a step triggers one build, iff the sink takes the banner, and
runs what is found: `runVariant_deeds`).
-/

import Mathlib
import TestBench.Proofs.Report.Truncation
import TestBench.Proofs.Sanitizer.Isolation

namespace TestBench
namespace Sanitizer
namespace Plan

/-- What there is to write up to the end of the banner of the visit at this place. -/
def piecesUpTo (plan : Plan) (visits : List Visit) (place : Nat) : List Report.Piece :=
  (visits.take place).flatMap plan.visitPieces
    ++ (visits[place]?.map fun visit => Report.banner visit.variant).getD []

/-- Its bytes: the segments of the variants before, and the banner. -/
def upToBanner (plan : Plan) (visits : List Visit) (place : Nat) : Bytes :=
  (visits.take place).flatMap (fun visit => plan.segment visit (plan.elapsedAt visit))
    ++ (visits[place]?.map fun visit => plan.bannerOf visit.variant).getD []

section

variable (plan : Plan) (visit : Visit) (rest : List Visit)

theorem piecesUpTo_zero : plan.piecesUpTo (visit :: rest) 0 = Report.banner visit.variant := rfl

theorem piecesUpTo_succ (place : Nat) :
    plan.piecesUpTo (visit :: rest) (place + 1) = plan.visitPieces visit ++ plan.piecesUpTo rest place := by
  rw [piecesUpTo, piecesUpTo, List.take_succ_cons, List.flatMap_cons, List.getElem?_cons_succ,
    List.append_assoc]

theorem upToBanner_succ (place : Nat) :
    plan.upToBanner (visit :: rest) (place + 1)
      = plan.segment visit (plan.elapsedAt visit) ++ plan.upToBanner rest place := by
  rw [upToBanner, upToBanner, List.take_succ_cons, List.flatMap_cons, List.getElem?_cons_succ,
    List.append_assoc]

end

theorem render_piecesUpTo (plan : Plan) (visits : List Visit) (place : Nat) :
    Report.render plan.reporter.color (plan.piecesUpTo visits place) = plan.upToBanner visits place := by
  rw [piecesUpTo, upToBanner, Report.render_append, Report.render_flatMap, List.flatMap_def]
  simp only [render_visitPieces]
  cases visits[place]? with
  | none => rfl
  | some visit => rfl

/-- Each banner has its place in what there is to write. -/
theorem piecesUpTo_prefix (plan : Plan) (visits : List Visit) (place : Nat) :
    plan.piecesUpTo visits place <+: visits.flatMap plan.visitPieces := by
  induction visits generalizing place with
  | nil =>
    rw [piecesUpTo, List.take_nil]
    exact List.prefix_refl []
  | cons visit rest ih =>
    rw [List.flatMap_cons]
    cases place with
    | zero =>
      rw [piecesUpTo_zero, visitPieces, List.append_assoc]
      exact List.prefix_append ..
    | succ place =>
      rw [piecesUpTo_succ]
      exact (List.prefix_append_right_inj _).2 (ih place)

/-- A banner is written iff it can be, and all that stands before it. -/
theorem inRange_piecesUpTo_iff (plan : Plan) (host : Host) (variants : List Text) (place : Nat) :
    Report.inRange (plan.piecesUpTo (plan.visits host variants) place) = true
      ↔ plan.upToBanner (plan.visits host variants) place <+: plan.reportOfAll host variants := by
  obtain ⟨behind, hbehind⟩ := plan.piecesUpTo_prefix (plan.visits host variants) place
  rw [reportOfAll, sessionPieces, ← hbehind, ← render_piecesUpTo, Report.written_append]
  cases hrange : Report.inRange (plan.piecesUpTo (plan.visits host variants) place) with
  | true =>
    rw [if_pos rfl]
    exact iff_of_true rfl (List.prefix_append ..)
  | false =>
    rw [if_neg Bool.false_ne_true]
    refine iff_of_false Bool.false_ne_true fun hprefix => ?_
    exact absurd hprefix.length_le (Nat.not_le.2 (Report.length_written_lt hrange _))

theorem inRange_piecesUpTo {plan : Plan} {host : Host} {variants : List Text} (h : plan.IsPaddable host variants)
    (place : Nat) : Report.inRange (plan.piecesUpTo (plan.visits host variants) place) = true := by
  have hrange := inRange_sessionPieces_iff.2 h
  obtain ⟨behind, hbehind⟩ := plan.piecesUpTo_prefix (plan.visits host variants) place
  rw [sessionPieces, ← hbehind, Report.inRange_append, Bool.and_eq_true] at hrange
  exact hrange.1

/-! ### What is done -/

/-- Reporting triggers no build; what it reports on was run before. -/
theorem reportOn_deeds (plan : Plan) (progress : Progress) (paths : List Text) :
    (plan.reportOn progress paths).1.triggered = progress.triggered ∧
      (plan.reportOn progress paths).1.executions = progress.executions
        ++ (plan.runner.execute progress.host paths).map Run.Trial.execution := by
  rw [reportOn]
  split
  · next hwrite =>
    rw [write_eq] at hwrite
    rw [← congrArg Prod.fst hwrite]
    exact ⟨rfl, rfl⟩
  · next hwrite =>
    rw [write_eq] at hwrite
    rw [← congrArg Prod.fst hwrite]
    exact ⟨rfl, rfl⟩

/-- **One variant** is built iff its banner is delivered, and then what is found in its tree is run. -/
theorem runVariant_deeds (plan : Plan) (progress : Progress) (variant : Text) :
    (plan.runVariant progress variant).1.triggered = progress.triggered
        ++ (if progress.sink.delivers (plan.bannerOf variant) then [variant] else []) ∧
      (plan.runVariant progress variant).1.executions = progress.executions
        ++ (if progress.sink.delivers (plan.bannerOf variant) then
            plan.ranAt (plan.visit progress.host variant) else []) := by
  cases hbanner : progress.sink.delivers (plan.bannerOf variant) with
  | false =>
    rw [runVariant_of_not_delivers hbanner]
    simp
  | true =>
    rw [runVariant_of_delivers hbanner]
    rcases hbuild : (plan.visit progress.host variant).build with err | done
    · rw [(plan.resultAt_of_notBuilt hbuild).2.1]
      exact ⟨rfl, (List.append_nil _).symm⟩
    · rcases hdiscovery : plan.discovery (plan.visit progress.host variant) with ⟨err | paths, events⟩
      · rw [(plan.resultAt_of_notSearched hbuild hdiscovery).2.1]
        exact ⟨rfl, (List.append_nil _).symm⟩
      · obtain ⟨htriggered, hexecutions⟩ :=
          plan.reportOn_deeds ((plan.arrive progress variant).note (.ofEvents events)) paths
        rw [(plan.resultAt_of_found hbuild hdiscovery).2.1]
        exact ⟨htriggered, hexecutions⟩

/-- On a prompt sink a variant comes to its end iff the sink takes all that there is to write of it, and it can
be written. -/
theorem runVariant_cases (plan : Plan) {progress : Progress} (hprompt : progress.sink.IsPrompt) (variant : Text) :
    (Report.inRange (plan.visitPieces (plan.visit progress.host variant)) = true ∧
      progress.sink.holds (plan.segment (plan.visit progress.host variant)
        (plan.elapsedAt (plan.visit progress.host variant))) = true ∧
      (plan.runVariant progress variant).1.sink = progress.sink.push (plan.segment
        (plan.visit progress.host variant) (plan.elapsedAt (plan.visit progress.host variant))) ∧
      (plan.runVariant progress variant).2 = .ok (plan.resultAt (plan.visit progress.host variant))) ∨
    (¬(Report.inRange (plan.visitPieces (plan.visit progress.host variant)) = true ∧
      progress.sink.holds (plan.segment (plan.visit progress.host variant)
        (plan.elapsedAt (plan.visit progress.host variant))) = true) ∧
      ∃ halt, (plan.runVariant progress variant).2 = .error halt) := by
  obtain ⟨hsink, hresult⟩ := Prod.mk.inj ((plan.runVariant_yields progress variant).eq_of_isPrompt hprompt)
  rw [← render_visitPieces, hsink, hresult, Report.Sink.ending]
  cases hrange : Report.inRange (plan.visitPieces (plan.visit progress.host variant)) with
  | false =>
    refine .inr ⟨fun h => Bool.false_ne_true h.1, ?_⟩
    split
    · exact ⟨_, rfl⟩
    · exact ⟨_, rfl⟩
  | true =>
    rw [Report.written_of_inRange hrange]
    split
    · next hholds => exact .inl ⟨rfl, hholds, rfl, rfl⟩
    · next hholds => exact .inr ⟨fun h => hholds h.2, _, rfl⟩

/-- **How far a session gets.**  The first variants are built and run: those whose banners are written, and taken by
the sink. -/
theorem exists_reached (plan : Plan) (progress : Progress) (hprompt : progress.sink.IsPrompt)
    (variants : List Text) :
    ∃ count, (plan.runVariants progress variants).1.triggered
        = progress.triggered ++ variants.take count ∧
      (plan.runVariants progress variants).1.executions = progress.executions
        ++ ((plan.visits progress.host variants).take count).flatMap plan.ranAt ∧
      ∀ place < variants.length, place < count ↔
        Report.inRange (plan.piecesUpTo (plan.visits progress.host variants) place) = true ∧
          progress.sink.holds (plan.upToBanner (plan.visits progress.host variants) place) = true := by
  induction variants generalizing progress with
  | nil => exact ⟨0, (List.append_nil _).symm, (List.append_nil _).symm, fun _ h => absurd h (Nat.not_lt_zero _)⟩
  | cons variant rest ih =>
    obtain ⟨htriggered, hexecutions⟩ := plan.runVariant_deeds progress variant
    rw [hprompt.delivers_eq] at htriggered hexecutions
    rw [visits]
    have hfirst : Report.inRange (plan.piecesUpTo (plan.visit progress.host variant
        :: plan.visits (plan.visit progress.host variant).host rest) 0) = true := Report.inRange_banner _
    rcases plan.runVariant_cases hprompt variant with ⟨hrange, hholds, hsink, hresult⟩ | ⟨hstops, halt, hresult⟩
    · -- The session goes on with the room and the host that the variant left.
      have hleft := host_runVariant hresult
      have hpush : (plan.runVariant progress variant).1.sink.IsPrompt := hsink ▸ hprompt.push hholds
      obtain ⟨count, hrestTriggered, hrestExecutions, hrestReached⟩ :=
        ih (plan.runVariant progress variant).1 hpush
      have htaken : progress.sink.holds (plan.bannerOf variant) = true := by
        rw [segment, Report.Sink.holds_append, Bool.and_eq_true] at hholds
        exact hholds.1
      rw [if_pos htaken] at htriggered hexecutions
      rw [hleft] at hrestExecutions hrestReached
      rw [hsink] at hrestReached
      rw [runVariants_of_ok rest hresult]
      refine ⟨count + 1, ?_, ?_, fun place hplace => ?_⟩
      · rw [hrestTriggered, htriggered, List.take_succ_cons, List.append_assoc]
        rfl
      · rw [hrestExecutions, hexecutions, List.take_succ_cons, List.flatMap_cons, List.append_assoc]
      · cases place with
        | zero => exact iff_of_true (Nat.succ_pos count) ⟨hfirst, htaken⟩
        | succ place =>
          rw [piecesUpTo_succ, upToBanner_succ, Report.inRange_append, hrange, Bool.true_and,
            Report.Sink.holds_append, hholds, Bool.true_and,
            ← hrestReached place (Nat.lt_of_succ_lt_succ hplace)]
          exact Nat.succ_lt_succ_iff
    · rw [runVariants_of_error rest hresult]
      -- No later banner is written and taken, since it stands behind this report.
      have hlater (place : Nat) : ¬(Report.inRange (plan.piecesUpTo (plan.visit progress.host variant
            :: plan.visits (plan.visit progress.host variant).host rest) (place + 1)) = true ∧
          progress.sink.holds (plan.upToBanner (plan.visit progress.host variant
            :: plan.visits (plan.visit progress.host variant).host rest) (place + 1)) = true) := by
        rw [piecesUpTo_succ, upToBanner_succ, Report.inRange_append, Report.Sink.holds_append, Bool.and_eq_true,
          Bool.and_eq_true]
        exact fun h => hstops ⟨h.1.1, h.2.1⟩
      cases htaken : progress.sink.holds (plan.bannerOf variant) with
      | true =>
        rw [htaken, if_pos rfl] at htriggered hexecutions
        refine ⟨1, htriggered, ?_, fun place _ => ?_⟩
        · rw [hexecutions, List.take_succ_cons, List.take_zero, List.flatMap_singleton]
        · cases place with
          | zero => exact iff_of_true Nat.zero_lt_one ⟨hfirst, htaken⟩
          | succ place => exact iff_of_false (by omega) (hlater place)
      | false =>
        rw [htaken, if_neg Bool.false_ne_true] at htriggered hexecutions
        refine ⟨0, htriggered, hexecutions, fun place _ => ?_⟩
        cases place with
        | zero => exact iff_of_false (Nat.lt_irrefl 0) fun h => Bool.false_ne_true (htaken.symm.trans h.2)
        | succ place => exact iff_of_false (Nat.not_lt_zero _) (hlater place)

/-- The end of a session changes nothing about what was done. -/
theorem run_deeds (plan : Plan) (host : Host) (sink : Report.Sink) (variants : List Text) :
    (plan.run host sink variants).1.triggered
        = (plan.runVariants (.start host sink) variants).1.triggered ∧
      (plan.run host sink variants).1.executions
        = (plan.runVariants (.start host sink) variants).1.executions := by
  rw [run]
  split
  next hrun => rw [hrun]; exact ⟨rfl, rfl⟩
  next hrun => rw [hrun]; exact ⟨rfl, rfl⟩

/-- What a session writes, and what comes of it, on every sink that takes nothing it cannot pass on. -/
theorem playsPromptly_run (plan : Plan) (host : Host) (variants : List Text) :
    Report.PlaysPromptly
      (fun sink => ((plan.run host sink variants).1.sink, (plan.run host sink variants).2))
      plan.reporter.color (plan.sessionPieces host variants) (plan.outcomes host variants) := by
  intro sink hprompt
  have hclear : sink.isClear = true := Report.Sink.isClear_of_push (hprompt [] (Report.Sink.holds_nil sink))
  exact (plan.run_yields host sink variants fun _ => hclear).eq_of_isPrompt hprompt

/-- **A sink that becomes full stops a session cleanly.**  It holds what it had room for of what is written
without a bound, and the session fails for it iff that is not all.  The builds that are triggered are those of the
first variants, in their order: of every variant whose banner is written, and ends where there still is room.  What
is run is what is found in the trees that they leave.  All banners are written, unless a report crashes the
program. -/
theorem run_interrupted (plan : Plan) (host : Host) (variants : List Text) :
    Report.Truncates
      (fun sink => ((plan.run host sink variants).1.sink, (plan.run host sink variants).2))
      (if plan.IsPaddable host variants then .ok (plan.outcomes host variants) else .error .crashed) ∧
    ∀ (n : Nat) (refusal : Text), ∃ count,
      (plan.run host (.bounded n refusal) variants).1.triggered = variants.take count ∧
      (plan.run host (.bounded n refusal) variants).1.executions
        = ((plan.visits host variants).take count).flatMap plan.ranAt ∧
      ∀ place < variants.length,
        (plan.IsPaddable host variants → plan.upToBanner (plan.visits host variants) place
            <+: (plan.run host .unbounded variants).1.sink.taken) ∧
          (place < count ↔
            plan.upToBanner (plan.visits host variants) place <+: (plan.run host .unbounded variants).1.sink.taken ∧
              (plan.upToBanner (plan.visits host variants) place).length ≤ n) := by
  constructor
  · have htruncates := (plan.playsPromptly_run host variants).truncates
    simpa only [inRange_sessionPieces_iff] using htruncates
  · intro n refusal
    obtain ⟨htriggered, hexecutions⟩ := plan.run_deeds host (.bounded n refusal) variants
    obtain ⟨count, hfirst, hran, hreached⟩ :=
      plan.exists_reached (.start host (.bounded n refusal)) (Report.Sink.isPrompt_bounded n refusal) variants
    have htaken : (plan.run host .unbounded variants).1.sink.taken = plan.reportOfAll host variants :=
      (plan.playsPromptly_run host variants).unbounded.1
    refine ⟨count, by rw [htriggered, hfirst]; rfl, by rw [hexecutions, hran]; rfl,
      fun place hplace => ⟨fun hpaddable => ?_, ?_⟩⟩
    · rw [htaken]
      exact (plan.inRange_piecesUpTo_iff host variants place).1 (inRange_piecesUpTo hpaddable place)
    · have hholds : (Progress.start host (.bounded n refusal)).sink.holds
          (plan.upToBanner (plan.visits host variants) place) = decide
            ((plan.upToBanner (plan.visits host variants) place).length ≤ n) :=
        Report.Sink.holds_of_room_some (Report.Sink.room_bounded n refusal) _
      rw [htaken, ← plan.inRange_piecesUpTo_iff, hreached place hplace]
      exact and_congr_right fun _ => hholds ▸ decide_eq_true_iff

end Plan
end Sanitizer
end TestBench
