/-
# What becomes of the variants

A session takes the variants one after the other; each build may leave other files behind than it met.
What becomes of a variant depends on nothing but its own visit:

| definition | what it is |
| --- | --- |
| `Visit` | a variant, the result of its build, and the host afterwards |
| `Plan.visits` | the visits of a session |
| `Plan.resultAt` | what becomes of the variant |
| `Plan.ranAt` | the executions of its binaries, if it was built and searched |
| `Plan.visitPieces` | what there is to write: the banner, and the report on those executions |

`run_yields` says what a session writes and comes to: the pieces of all visits, as far as they can be written, and
if they all can, and the sink delivers them, the results of the visits.  The induction is on the variants; each step
writes the pieces of its visit and leaves the host of its visit (`runVariant_yields`).
-/

import TestBench.Sanitizer.Session
import TestBench.Proofs.Discovery
import TestBench.Proofs.Report.Padding

namespace TestBench
namespace Sanitizer

/-- One variant of a session. -/
structure Visit where
  variant : Text
  /-- What came of its build. -/
  build : Except BuildError Unit
  /-- The host after its build. -/
  host : Host

namespace Plan

/-- The visit of a variant that meets this host. -/
def visit (plan : Plan) (host : Host) (variant : Text) : Visit :=
  { variant, build := (plan.trigger host variant).result
    host := { host with tree := (plan.trigger host variant).tree } }

/-- The visits of variants, one after the other. -/
def visits (plan : Plan) : Host → List Text → List Visit
  | _, [] => []
  | host, variant :: rest =>
    plan.visit host variant :: visits plan (plan.visit host variant).host rest

/-- The binaries of the variant, and what is logged. -/
def discovery (plan : Plan) (visit : Visit) :
    Except Discovery.DiscoveryError (List Text) × List Log.Event :=
  Discovery.discover visit.host.tree visit.host.here plan.pattern (tree plan.buildDir visit.variant)

/-- The executions of the variant's binaries, and how long they took. -/
def trialsAt (plan : Plan) (visit : Visit) (paths : List Text) : List Run.Trial :=
  plan.runner.execute visit.host paths

/-- What becomes of the variant. -/
def resultAt (plan : Plan) (visit : Visit) : VariantResult :=
  match visit.build, (plan.discovery visit).1 with
  | .error err, _ => .notBuilt err
  | .ok (), .error err => .notSearched err
  | .ok (), .ok paths =>
    .completed (.ofExecutions ((plan.trialsAt visit paths).map Run.Trial.execution))

/-- The executions of the variant's binaries, if it was built and its tree could be searched. -/
def ranAt (plan : Plan) (visit : Visit) : List Run.Execution :=
  match visit.build, (plan.discovery visit).1 with
  | .ok (), .ok paths => (plan.trialsAt visit paths).map Run.Trial.execution
  | _, _ => []

/-- The report on the binaries at these paths. -/
def piecesOn (plan : Plan) (visit : Visit) (paths : List Text) : List Report.Piece :=
  Report.report plan.reporter.base ((plan.trialsAt visit paths).map Run.Trial.execution)
    (plan.runner.elapsed (plan.trialsAt visit paths))

/-- The report on the variant's binaries, if they were run. -/
def piecesAt (plan : Plan) (visit : Visit) : List Report.Piece :=
  match visit.build, (plan.discovery visit).1 with
  | .ok (), .ok paths => plan.piecesOn visit paths
  | _, _ => []

/-- The banner of a variant. -/
def bannerOf (plan : Plan) (variant : Text) : Bytes :=
  Report.render plan.reporter.color (Report.banner variant)

/-- What there is to write of the variant. -/
def visitPieces (plan : Plan) (visit : Visit) : List Report.Piece :=
  Report.banner visit.variant ++ plan.piecesAt visit

/-- What there is to write of all variants. -/
def sessionPieces (plan : Plan) (host : Host) (variants : List Text) : List Report.Piece :=
  (plan.visits host variants).flatMap plan.visitPieces

/-- What is written of all variants, as far as it can be. -/
def reportOfAll (plan : Plan) (host : Host) (variants : List Text) : Bytes :=
  Report.written plan.reporter.color (plan.sessionPieces host variants)

/-- The rows of all case tables can be padded. -/
def IsPaddable (plan : Plan) (host : Host) (variants : List Text) : Prop :=
  ∀ visit ∈ plan.visits host variants, Report.IsPaddable plan.reporter.base (plan.ranAt visit)

instance (plan : Plan) (host : Host) (variants : List Text) : Decidable (plan.IsPaddable host variants) :=
  inferInstanceAs (Decidable (∀ visit ∈ plan.visits host variants, _))

/-- The outcome of a visit. -/
def outcomeAt (plan : Plan) (visit : Visit) : VariantOutcome :=
  { variant := visit.variant, result := plan.resultAt visit }

/-- The outcomes of a session that comes to its end. -/
def outcomes (plan : Plan) (host : Host) (variants : List Text) : List VariantOutcome :=
  (plan.visits host variants).map plan.outcomeAt

/-- A variant that was not built is not run. -/
theorem resultAt_of_notBuilt (plan : Plan) {visit : Visit} {err : BuildError}
    (h : visit.build = .error err) :
    plan.resultAt visit = .notBuilt err ∧ plan.ranAt visit = [] ∧ plan.piecesAt visit = [] := by
  rw [resultAt, ranAt, piecesAt, h]
  exact ⟨rfl, rfl, rfl⟩

/-- A variant whose binaries could not be looked for is not run. -/
theorem resultAt_of_notSearched (plan : Plan) {visit : Visit} {err : Discovery.DiscoveryError}
    {events : List Log.Event} (hbuild : visit.build = .ok ())
    (h : plan.discovery visit = (.error err, events)) :
    plan.resultAt visit = .notSearched err ∧ plan.ranAt visit = [] ∧ plan.piecesAt visit = [] := by
  rw [resultAt, ranAt, piecesAt, hbuild, h]
  exact ⟨rfl, rfl, rfl⟩

theorem resultAt_of_found (plan : Plan) {visit : Visit} {paths : List Text}
    {events : List Log.Event} (hbuild : visit.build = .ok ())
    (h : plan.discovery visit = (.ok paths, events)) :
    plan.resultAt visit
        = .completed (.ofExecutions ((plan.trialsAt visit paths).map Run.Trial.execution)) ∧
      plan.ranAt visit = (plan.trialsAt visit paths).map Run.Trial.execution ∧
      plan.piecesAt visit = plan.piecesOn visit paths := by
  rw [resultAt, ranAt, piecesAt, hbuild, h]
  exact ⟨rfl, rfl, rfl⟩

/-- A variant is not run, or there is a report on what is run. -/
theorem piecesAt_cases (plan : Plan) (visit : Visit) :
    (plan.ranAt visit = [] ∧ plan.piecesAt visit = []) ∨
      ∃ elapsed, plan.piecesAt visit = Report.report plan.reporter.base (plan.ranAt visit) elapsed := by
  rcases hbuild : visit.build with err | done
  · exact .inl (plan.resultAt_of_notBuilt hbuild).2
  · rcases hdiscovery : plan.discovery visit with ⟨err | paths, events⟩
    · exact .inl (plan.resultAt_of_notSearched hbuild hdiscovery).2
    · obtain ⟨-, hran, hpieces⟩ := plan.resultAt_of_found hbuild hdiscovery
      rw [hran, hpieces]
      exact .inr ⟨_, rfl⟩

/-- A report of a variant can crash in its case table only. -/
theorem inRange_visitPieces_iff {plan : Plan} {visit : Visit} :
    Report.inRange (plan.visitPieces visit) = true ↔ Report.IsPaddable plan.reporter.base (plan.ranAt visit) := by
  rw [visitPieces, Report.inRange_append, Report.inRange_banner, Bool.true_and]
  rcases plan.piecesAt_cases visit with ⟨hran, hpieces⟩ | ⟨elapsed, hpieces⟩
  · rw [hran, hpieces]
    exact iff_of_true rfl (Report.isPaddable_nil _)
  · rw [hpieces]
    exact Report.inRange_report_iff

theorem inRange_sessionPieces_iff {plan : Plan} {host : Host} {variants : List Text} :
    Report.inRange (plan.sessionPieces host variants) = true ↔ plan.IsPaddable host variants := by
  rw [sessionPieces, Report.inRange_flatMap, List.all_eq_true]
  exact forall₂_congr fun visit _ => inRange_visitPieces_iff

/-! ### One variant -/

theorem written_banner (plan : Plan) (variant : Text) :
    Report.written plan.reporter.color (Report.banner variant) = plan.bannerOf variant :=
  Report.written_of_inRange (Report.inRange_banner variant) _

theorem concludes_introduce (plan : Plan) (variant : Text) :
    Report.Concludes (plan.introduce variant) plan.reporter.color (Report.banner variant) () := by
  rw [← List.append_nil (Report.banner variant)]
  exact (Report.plays_writeBanner plan.reporter variant).bind_concludes
    (Report.concludes_flush plan.reporter.color)

theorem write_eq {α : Type} (progress : Progress) (writing : Report.Writing α) :
    progress.write writing
      = ({ progress with sink := (writing progress.sink).1 }, (writing progress.sink).2) := rfl

/-- A variant is introduced iff its banner is delivered. -/
theorem introduce_eq (plan : Plan) (variant : Text) (sink : Report.Sink) :
    plan.introduce variant sink = (sink.push (plan.bannerOf variant),
      if sink.delivers (plan.bannerOf variant) then .ok () else .error (.refused { cause := sink.refusal })) := by
  rw [plan.concludes_introduce variant sink, written_banner, Report.inRange_banner, Report.Sink.conclusion,
    Report.Sink.delivers]
  cases sink.holds (plan.bannerOf variant) with
  | false => rfl
  | true => rfl

/-- What the report on binaries leads to. -/
theorem reportOn_eq (plan : Plan) (progress : Progress) (paths : List Text) :
    let trials := plan.runner.execute progress.host paths
    let written := plan.reporter.writeReport (trials.map Run.Trial.execution) (plan.runner.elapsed trials)
      progress.sink
    (plan.reportOn progress paths).1.sink = written.1 ∧
      (plan.reportOn progress paths).2 = written.2.map .completed ∧
      (plan.reportOn progress paths).1.host = progress.host := by
  intro trials written
  have hlater : (plan.reporter.writeReport (trials.map Run.Trial.execution) (plan.runner.elapsed trials)
    ((progress.note (.ofEvents (trials.flatMap Run.Trial.events))).ran (trials.map Run.Trial.execution)).sink).2
      = written.2 := rfl
  rw [reportOn, write_eq, hlater]
  cases written.2 with
  | ok stats => exact ⟨rfl, rfl, rfl⟩
  | error halt => exact ⟨rfl, rfl, rfl⟩

/-- A session behind the banner and the build of a variant. -/
def arrive (plan : Plan) (progress : Progress) (variant : Text) : Progress :=
  (({ progress with sink := progress.sink.push (plan.bannerOf variant) } : Progress).build plan.trigger
    variant).1

@[simp] theorem host_arrive (plan : Plan) (progress : Progress) (variant : Text) :
    (plan.arrive progress variant).host = (plan.visit progress.host variant).host := rfl

@[simp] theorem sink_arrive (plan : Plan) (progress : Progress) (variant : Text) :
    (plan.arrive progress variant).sink = progress.sink.push (plan.bannerOf variant) := rfl

section

variable {plan : Plan} {progress : Progress} {variant : Text}

/-- Nothing is done about a variant whose banner is not delivered. -/
theorem runVariant_of_not_delivers (h : progress.sink.delivers (plan.bannerOf variant) = false) :
    plan.runVariant progress variant = ({ progress with sink := progress.sink.push (plan.bannerOf variant) },
      .error (.refused { cause := progress.sink.refusal })) := by
  rw [runVariant, write_eq, introduce_eq, h]
  rfl

/-- Behind its banner a variant is built. -/
theorem runVariant_of_delivers (h : progress.sink.delivers (plan.bannerOf variant) = true) :
    plan.runVariant progress variant =
      match (plan.visit progress.host variant).build with
      | .error err =>
        ((plan.arrive progress variant).note [.event (skipped variant err.message err.causes)],
          .ok (.notBuilt err))
      | .ok () =>
        match plan.discovery (plan.visit progress.host variant) with
        | (.error err, events) =>
          ((plan.arrive progress variant).note
            (.ofEvents (events ++ [skipped variant err.message [err.cause.message]])),
            .ok (.notSearched err))
        | (.ok paths, events) =>
          plan.reportOn ((plan.arrive progress variant).note (.ofEvents events)) paths := by
  have hbuild (pushed : Progress) : pushed.build plan.trigger variant
      = ((pushed.build plan.trigger variant).1, (plan.trigger pushed.host variant).result) := rfl
  rw [runVariant, write_eq, introduce_eq, if_pos h]
  dsimp only
  rw [hbuild]
  cases hresult : (plan.trigger progress.host variant).result with
  | error err => simp only [hresult, visit]; rfl
  | ok done => simp only [hresult, visit]; rfl

/-- **One variant** writes the pieces of its visit and comes to the result of its visit. -/
theorem runVariant_yields (plan : Plan) (progress : Progress) (variant : Text) :
    Report.Yields progress.sink plan.reporter.color (plan.visitPieces (plan.visit progress.host variant))
      (plan.resultAt (plan.visit progress.host variant))
      ((plan.runVariant progress variant).1.sink, (plan.runVariant progress variant).2) := by
  have hintroduce := (plan.concludes_introduce variant).yields progress.sink
  refine hintroduce.bind (fun hdelivers _ => ?_) fun halt hhalt => ?_
  · rw [written_banner] at hdelivers ⊢
    have hclear := Report.Sink.isClear_of_delivers hdelivers
    rw [runVariant_of_delivers hdelivers]
    rcases hbuild : (plan.visit progress.host variant).build with err | done
    · obtain ⟨hresult, -, hpieces⟩ := plan.resultAt_of_notBuilt hbuild
      rw [hresult, hpieces]
      exact Report.yields_nil hclear _ _
    · rcases hdiscovery : plan.discovery (plan.visit progress.host variant) with ⟨err | paths, events⟩
      · obtain ⟨hresult, -, hpieces⟩ := plan.resultAt_of_notSearched hbuild hdiscovery
        rw [hresult, hpieces]
        exact Report.yields_nil hclear _ _
      · obtain ⟨hresult, -, hpieces⟩ := plan.resultAt_of_found hbuild hdiscovery
        obtain ⟨hsink, hvalue, -⟩ := plan.reportOn_eq ((plan.arrive progress variant).note (.ofEvents events)) paths
        rw [hresult, hpieces, hsink, hvalue]
        exact ((Report.concludes_writeReport _ _ _).yields _).map _
  · rw [introduce_eq] at hhalt ⊢
    cases hdelivers : progress.sink.delivers (plan.bannerOf variant) with
    | true =>
      rw [if_pos hdelivers] at hhalt
      cases hhalt
    | false =>
      rw [hdelivers, if_neg Bool.false_ne_true] at hhalt
      rw [runVariant_of_not_delivers hdelivers, ← Except.error.inj hhalt]

/-- A variant that comes to its end leaves the host of its visit. -/
theorem host_runVariant {result : VariantResult} (h : (plan.runVariant progress variant).2 = .ok result) :
    (plan.runVariant progress variant).1.host = (plan.visit progress.host variant).host := by
  cases hdelivers : progress.sink.delivers (plan.bannerOf variant) with
  | false =>
    rw [runVariant_of_not_delivers hdelivers] at h
    cases h
  | true =>
    rw [runVariant_of_delivers hdelivers]
    rcases (plan.visit progress.host variant).build with err | done
    · rfl
    · rcases plan.discovery (plan.visit progress.host variant) with ⟨err | paths, events⟩
      · rfl
      · exact (plan.reportOn_eq ((plan.arrive progress variant).note (.ofEvents events)) paths).2.2

end

/-! ### All variants -/

theorem runVariants_of_error {plan : Plan} {progress : Progress} {variant : Text}
    {halt : Report.Halt} (rest : List Text)
    (h : (plan.runVariant progress variant).2 = .error halt) :
    plan.runVariants progress (variant :: rest)
      = ((plan.runVariant progress variant).1, .error halt) := by
  rcases hrun : plan.runVariant progress variant with ⟨progress', result⟩
  rw [hrun] at h
  obtain rfl : result = .error halt := h
  rw [runVariants, hrun]

theorem runVariants_of_ok {plan : Plan} {progress : Progress} {variant : Text}
    {result : VariantResult} (rest : List Text)
    (h : (plan.runVariant progress variant).2 = .ok result) :
    plan.runVariants progress (variant :: rest)
      = ((plan.runVariants (plan.runVariant progress variant).1 rest).1,
        (plan.runVariants (plan.runVariant progress variant).1 rest).2.map
          ({ variant, result } :: ·)) := by
  rcases hrun : plan.runVariant progress variant with ⟨progress', result'⟩
  rw [hrun] at h
  obtain rfl : result' = .ok result := h
  rw [runVariants, hrun]
  dsimp only
  rcases plan.runVariants progress' rest with ⟨progress'', halt | outcomes⟩
  · rfl
  · rfl

theorem sessionPieces_cons (plan : Plan) (host : Host) (variant : Text) (rest : List Text) :
    plan.sessionPieces host (variant :: rest) = plan.visitPieces (plan.visit host variant)
      ++ plan.sessionPieces (plan.visit host variant).host rest := by
  rw [sessionPieces, visits, List.flatMap_cons, sessionPieces]

/-- **A session** writes the pieces of all visits and comes to the results of the visits. -/
theorem runVariants_yields (plan : Plan) (progress : Progress) (variants : List Text)
    (hclear : variants = [] → progress.sink.isClear = true) :
    Report.Yields progress.sink plan.reporter.color (plan.sessionPieces progress.host variants)
      (plan.outcomes progress.host variants)
      ((plan.runVariants progress variants).1.sink, (plan.runVariants progress variants).2) := by
  induction variants generalizing progress with
  | nil => exact Report.yields_nil (hclear rfl) _ _
  | cons variant rest ih =>
    rw [sessionPieces_cons]
    refine (plan.runVariant_yields progress variant).bind (fun hdelivers hok => ?_) fun halt hhalt => ?_
    · obtain ⟨hsink, hresult⟩ := Prod.mk.inj hok
      rw [runVariants_of_ok rest hresult]
      have hleft : (plan.runVariant progress variant).1.sink.isClear = true :=
        hsink ▸ Report.Sink.isClear_of_delivers hdelivers
      have hrest := ih (plan.runVariant progress variant).1 fun _ => hleft
      rw [host_runVariant hresult, hsink] at hrest
      exact hrest.map ({ variant, result := plan.resultAt (plan.visit progress.host variant) } :: ·)
    · rw [runVariants_of_error rest hhalt]

/-- A whole session does so too. -/
theorem run_yields (plan : Plan) (host : Host) (sink : Report.Sink) (variants : List Text)
    (hclear : variants = [] → sink.isClear = true) :
    Report.Yields sink plan.reporter.color (plan.sessionPieces host variants) (plan.outcomes host variants)
      ((plan.run host sink variants).1.sink, (plan.run host sink variants).2) := by
  have hyields := plan.runVariants_yields (.start host sink) variants hclear
  rcases hrun : plan.runVariants (.start host sink) variants with ⟨progress, halt | outcomes⟩
  · rw [hrun] at hyields
    rw [run, hrun]
    exact hyields
  · rw [hrun] at hyields
    rw [run, hrun]
    exact hyields

/-- A variant is completed iff it was built and its binaries could be looked for. -/
theorem isCompleted_resultAt_iff (plan : Plan) (visit : Visit) :
    (plan.resultAt visit).isCompleted = true ↔ visit.build = .ok () ∧
      ¬Discovery.Unsearchable visit.host.tree visit.host.here (tree plan.buildDir visit.variant) := by
  rcases hbuild : visit.build with err | done
  · rw [(plan.resultAt_of_notBuilt hbuild).1]
    simp [VariantResult.isCompleted]
  · rcases hdiscovery : plan.discovery visit with ⟨err | paths, events⟩
    · have hsearch := Discovery.exists_discover_eq_error_iff.1 ⟨err, congrArg Prod.fst hdiscovery⟩
      rw [(plan.resultAt_of_notSearched hbuild hdiscovery).1]
      simp [VariantResult.isCompleted, hsearch]
    · have hsearch : ¬Discovery.Unsearchable visit.host.tree visit.host.here
          (tree plan.buildDir visit.variant) := by
        intro hsearch
        obtain ⟨err, found, herror⟩ := Discovery.exists_discover_eq_error plan.pattern hsearch
        exact absurd (hdiscovery.symm.trans herror) (by simp)
      rw [(plan.resultAt_of_found hbuild hdiscovery).1]
      simp [VariantResult.isCompleted, hsearch]

end Plan
end Sanitizer
end TestBench
