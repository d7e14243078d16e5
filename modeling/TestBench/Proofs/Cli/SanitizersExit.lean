/-
# The exit code of `sanitizers`

| what happens | exit code |
| --- | ---: |
| the program panics over the pattern (`MatcherFault`) | 101 |
| else: the session cannot be set up (`SessionFault`) | 96 |
| else: the sink does not take all that is written of the reports | 110 |
| else: a cell of a case table lacks more columns than can be asked for, and the program panics | 101 |
| else: the sink cannot pass on all that it took | 110 |
| else: there are variants, and none was completed (`Sanitizer.Plan.NothingCompleted`) | 101 |

The last row is not what the code is documented to stand for, which is that every build failed
(`Sanitizer.Plan.NothingBuilt`).  A variant that was built and whose tree cannot be searched is not
completed either, so that 101 tells of builds that failed although one succeeded
(`answer_sanitizers`).  A plain file in the place of the tree is enough
(`not_exitCode_eq_nothingBuilt_iff`).
-/

import Mathlib
import TestBench.Proofs.Cli.Setup
import TestBench.Proofs.Sanitizer.Session

namespace TestBench

namespace Sanitizer
namespace Plan

/-- There are variants, and every build failed. -/
def NothingBuilt (plan : Plan) (host : Host) (variants : List Text) : Prop :=
  variants ≠ [] ∧ ∀ visit ∈ plan.visits host variants, ∃ err, visit.build = .error err

/-- There are variants, and each was not built or left a tree that cannot be searched. -/
def NothingCompleted (plan : Plan) (host : Host) (variants : List Text) : Prop :=
  variants ≠ [] ∧ ∀ visit ∈ plan.visits host variants, (∃ err, visit.build = .error err) ∨
    Discovery.Unsearchable visit.host.tree visit.host.here (tree plan.buildDir visit.variant)

theorem NothingBuilt.nothingCompleted {plan : Plan} {host : Host} {variants : List Text}
    (h : plan.NothingBuilt host variants) : plan.NothingCompleted host variants :=
  ⟨h.1, fun visit hvisit => .inl (h.2 visit hvisit)⟩

/-- Nothing is run of a variant that was not built or left a tree that cannot be searched. -/
theorem ranAt_of_not_completed (plan : Plan) {visit : Visit} (h : (∃ err, visit.build = .error err) ∨
    Discovery.Unsearchable visit.host.tree visit.host.here (tree plan.buildDir visit.variant)) :
    plan.ranAt visit = [] := by
  rcases hbuild : visit.build with err | done
  · exact (plan.resultAt_of_notBuilt hbuild).2.1
  · rcases h with ⟨err, herror⟩ | hsearch
    · exact absurd (hbuild.symm.trans herror) (by simp)
    · obtain ⟨err, events, hdiscovery⟩ := Discovery.exists_discover_eq_error plan.pattern hsearch
      exact (plan.resultAt_of_notSearched hbuild hdiscovery).2.1

/-- A session that completes nothing has no rows to pad. -/
theorem NothingCompleted.isPaddable {plan : Plan} {host : Host} {variants : List Text}
    (h : plan.NothingCompleted host variants) : plan.IsPaddable host variants := by
  intro visit hvisit
  rw [plan.ranAt_of_not_completed (h.2 visit hvisit)]
  exact Report.isPaddable_nil _

/-- A session that completes nothing built nothing, or one of its builds succeeded. -/
theorem not_nothingBuilt_iff {plan : Plan} {host : Host} {variants : List Text}
    (h : plan.NothingCompleted host variants) :
    ¬plan.NothingBuilt host variants ↔ ∃ visit ∈ plan.visits host variants, visit.build = .ok () := by
  constructor
  · intro hbuilt
    refine Classical.byContradiction fun hnone => hbuilt ⟨h.1, fun visit hvisit => ?_⟩
    rcases hbuild : visit.build with err | done
    · exact ⟨err, rfl⟩
    · exact absurd ⟨visit, hvisit, hbuild⟩ hnone
  · rintro ⟨visit, hvisit, hbuild⟩ hbuilt
    obtain ⟨err, herror⟩ := hbuilt.2 visit hvisit
    exact absurd (hbuild.symm.trans herror) (by simp)

/-- No outcome is that of a completed variant iff each visit failed to build or to be searched. -/
theorem all_not_isCompleted_iff (plan : Plan) (visits : List Visit) :
    ((visits.map plan.outcomeAt).all fun outcome => !outcome.result.isCompleted) = true ↔
      ∀ visit ∈ visits, (∃ err, visit.build = .error err) ∨
        Discovery.Unsearchable visit.host.tree visit.host.here (tree plan.buildDir visit.variant) := by
  rw [List.all_map, List.all_eq_true]
  refine forall₂_congr fun visit _ => ?_
  have hcompleted := plan.isCompleted_resultAt_iff visit
  rw [Function.comp_apply, outcomeAt, Bool.not_eq_true', ← Bool.not_eq_true, hcompleted]
  rcases visit.build with err | done
  · simp
  · simp

end Plan
end Sanitizer

namespace Cli

open Sanitizer

namespace Bench

/-- The variants that the command finds declared, and what is logged. -/
def declared (bench : Bench) (variantsDir : Option Text) :
    Except VariantsError (List Text) × List Log.Event :=
  Sanitizer.variants bench.host.tree bench.host.here (bench.variantsDir variantsDir)

/-- What is set up has the host and the sink of its surroundings. -/
theorem host_of_setUp {around : Surroundings} {color : Bool} {common : Common} {bench : Bench}
    (h : (setUp around color common).1 = .ok bench) :
    bench.host = around.host ∧ bench.sink = around.sink := by
  obtain ⟨base, pattern, preferences, -, rfl⟩ := exists_ready_of_setUp h
  exact ⟨rfl, rfl⟩

/-- A build command that is none cannot be set up. -/
theorem exitCode_of_buildCommand {bench : Bench} {given : Option Text} {failure : Failure}
    (h : bench.buildCommand given = .error failure) : failure.exitCode = 96 := by
  rw [buildCommand] at h
  split at h
  · simp at h
  · split at h
    · simp at h
    · obtain rfl := Except.error.inj h
      rfl

end Bench

/-- Something keeps `sanitizers` from running any variant. -/
inductive SessionFault (around : Surroundings) (color : Bool) (common : Common)
    (variantsDir buildCommand : Option Text) : Prop
  | setup (h : SetupFault around common)
  /-- The variants are unknown. -/
  | variants {bench : Bench} {err : VariantsError}
      (hbench : (Bench.setUp around color common).1 = .ok bench)
      (h : (bench.declared variantsDir).1 = .error err)
  /-- There are variants, but it is unknown how to build them. -/
  | buildCommand {bench : Bench} {variants : List Text} {failure : Failure}
      (hbench : (Bench.setUp around color common).1 = .ok bench)
      (hvariants : (bench.declared variantsDir).1 = .ok variants) (hsome : variants ≠ [])
      (h : bench.buildCommand buildCommand = .error failure)

/-- `sanitizers` is set up: it knows its variants and, if there are any, how to run them. -/
structure SessionReady (around : Surroundings) (color : Bool) (common : Common)
    (variantsDir buildCommand : Option Text) (bench : Bench) (variants : List Text) (plan : Plan) :
    Prop where
  bench_eq : (Bench.setUp around color common).1 = .ok bench
  variants_eq : (bench.declared variantsDir).1 = .ok variants
  plan_eq : variants ≠ [] →
    ∃ command, bench.buildCommand buildCommand = .ok command ∧ plan = bench.plan command

section

variable {around : Surroundings} {arguments : List Text} {color : Bool} {common : Common}
  {variantsDir buildCommand : Option Text} {bench : Bench} {variants : List Text} {plan : Plan}

namespace SessionReady

/-- There is only one way to be ready to run some variants. -/
theorem unique {bench' : Bench} {variants' : List Text} {plan' : Plan}
    (h : SessionReady around color common variantsDir buildCommand bench variants plan)
    (h' : SessionReady around color common variantsDir buildCommand bench' variants' plan')
    (hsome : variants ≠ []) : bench' = bench ∧ variants' = variants ∧ plan' = plan := by
  obtain rfl : bench' = bench := Except.ok.inj (h'.bench_eq.symm.trans h.bench_eq)
  obtain rfl : variants' = variants := Except.ok.inj (h'.variants_eq.symm.trans h.variants_eq)
  obtain ⟨command, hcommand, rfl⟩ := h.plan_eq hsome
  obtain ⟨command', hcommand', rfl⟩ := h'.plan_eq hsome
  obtain rfl : command' = command := Except.ok.inj (hcommand'.symm.trans hcommand)
  exact ⟨rfl, rfl, rfl⟩

theorem not_matcherFault
    (h : SessionReady around color common variantsDir buildCommand bench variants plan) :
    ¬MatcherFault around common := by
  obtain ⟨base, pattern, preferences, hready, -⟩ := Bench.exists_ready_of_setUp h.bench_eq
  exact hready.not_matcherFault

theorem not_sessionFault
    (h : SessionReady around color common variantsDir buildCommand bench variants plan) :
    ¬SessionFault around color common variantsDir buildCommand := by
  obtain ⟨base, pattern, preferences, hready, -⟩ := Bench.exists_ready_of_setUp h.bench_eq
  rintro (hsetup | ⟨hbench, herror⟩ | ⟨hbench, hvariants, hsome, herror⟩)
  · exact hready.not_setupFault hsetup
  · obtain rfl := Except.ok.inj (hbench.symm.trans h.bench_eq)
    exact absurd (herror.symm.trans h.variants_eq) (by simp)
  · obtain rfl := Except.ok.inj (hbench.symm.trans h.bench_eq)
    obtain rfl := Except.ok.inj (hvariants.symm.trans h.variants_eq)
    obtain ⟨command, hcommand, -⟩ := h.plan_eq hsome
    exact absurd (herror.symm.trans hcommand) (by simp)

/-- What is written when there are no variants, or else what the session leads to. -/
theorem result_sanitizers
    (h : SessionReady around color common variantsDir buildCommand bench variants plan) :
    (bench.sanitizers variantsDir buildCommand).result = if variants = [] then .ok ()
      else bench.resultOfSession (plan.run bench.host bench.sink variants).2 := by
  have hvariants := h.variants_eq
  rw [Bench.declared] at hvariants
  rcases hfound : Sanitizer.variants bench.host.tree bench.host.here (bench.variantsDir variantsDir)
    with ⟨found, events⟩
  rw [hfound] at hvariants
  obtain rfl : found = .ok variants := hvariants
  cases variants with
  | nil => simp only [Bench.sanitizers, hfound, if_true]
  | cons variant rest =>
    obtain ⟨command, hcommand, rfl⟩ := h.plan_eq (List.cons_ne_nil _ _)
    simp only [Bench.sanitizers, hfound, hcommand]
    rw [if_neg (List.cons_ne_nil _ _)]

/-- What halts the session fails the command. -/
theorem exitCode_sanitizers_of_halt {halt : Report.Halt}
    (h : SessionReady around color common variantsDir buildCommand bench variants plan) (hsome : variants ≠ [])
    (hhalt : (plan.run bench.host bench.sink variants).2 = .error halt) :
    (bench.sanitizers variantsDir buildCommand).exitCode = (Failure.ofHalt halt).exitCode := by
  rw [Effect.exitCode, h.result_sanitizers, if_neg hsome, hhalt, Bench.resultOfSession]

/-- The session yields what there is to write of its variants. -/
theorem yields_run (plan : Plan) (bench : Bench) (hsome : variants ≠ []) :
    Report.Yields bench.sink plan.reporter.color (plan.sessionPieces bench.host variants)
      (plan.outcomes bench.host variants)
      ((plan.run bench.host bench.sink variants).1.sink, (plan.run bench.host bench.sink variants).2) :=
  plan.run_yields bench.host bench.sink variants fun hnone => absurd hnone hsome

/-- The exit code for reports that the sink does not take. -/
theorem exitCode_sanitizers_of_not_holds
    (h : SessionReady around color common variantsDir buildCommand bench variants plan)
    (hholds : ¬bench.sink.holds (plan.reportOfAll bench.host variants)) :
    (bench.sanitizers variantsDir buildCommand).exitCode = 110 := by
  have hsome : variants ≠ [] := by
    rintro rfl
    exact hholds (Report.Sink.holds_nil _)
  have hdelivers : bench.sink.delivers (plan.reportOfAll bench.host variants) = false := by
    rw [Bool.eq_false_iff]
    exact mt Report.Sink.holds_of_delivers hholds
  rcases (yields_run plan bench hsome).undelivered hdelivers with hrefused | ⟨hboth, -⟩
  · rw [h.exitCode_sanitizers_of_halt hsome hrefused]
    rfl
  · exact absurd hboth hholds

/-- The exit code for reports of which one cannot be padded. -/
theorem exitCode_sanitizers_of_not_isPaddable
    (h : SessionReady around color common variantsDir buildCommand bench variants plan)
    (hpaddable : ¬plan.IsPaddable bench.host variants)
    (hdelivers : bench.sink.delivers (plan.reportOfAll bench.host variants)) :
    (bench.sanitizers variantsDir buildCommand).exitCode = 101 := by
  have hsome : variants ≠ [] := by
    rintro rfl
    exact hpaddable fun visit hvisit => absurd hvisit List.not_mem_nil
  have hdelivered := congrArg Prod.snd ((yields_run plan bench hsome).delivered hdelivers)
  rw [if_neg (mt Plan.inRange_sessionPieces_iff.1 hpaddable)] at hdelivered
  rw [h.exitCode_sanitizers_of_halt hsome hdelivered]
  rfl

/-- The exit code for reports that the sink does not pass on. -/
theorem exitCode_sanitizers_of_not_delivers
    (h : SessionReady around color common variantsDir buildCommand bench variants plan) (hsome : variants ≠ [])
    (hpaddable : plan.IsPaddable bench.host variants)
    (hdelivers : ¬bench.sink.delivers (plan.reportOfAll bench.host variants)) :
    (bench.sanitizers variantsDir buildCommand).exitCode = 110 := by
  rcases (yields_run plan bench hsome).undelivered (Bool.eq_false_iff.2 hdelivers) with hrefused | ⟨-, hrange, -⟩
  · rw [h.exitCode_sanitizers_of_halt hsome hrefused]
    rfl
  · exact absurd (Plan.inRange_sessionPieces_iff.2 hpaddable) (Bool.eq_false_iff.1 hrange)

/-- What the session leads to if its reports are delivered. -/
theorem result_sanitizers_of_delivers
    (h : SessionReady around color common variantsDir buildCommand bench variants plan) (hsome : variants ≠ [])
    (hpaddable : plan.IsPaddable bench.host variants)
    (hdelivers : bench.sink.delivers (plan.reportOfAll bench.host variants)) :
    (bench.sanitizers variantsDir buildCommand).result
      = bench.resultOfSession (.ok (plan.outcomes bench.host variants)) := by
  have hdelivered := congrArg Prod.snd ((yields_run plan bench hsome).delivered hdelivers)
  rw [if_pos (Plan.inRange_sessionPieces_iff.2 hpaddable)] at hdelivered
  rw [h.result_sanitizers, if_neg hsome]
  exact congrArg bench.resultOfSession hdelivered

/-- The exit code is for builds that failed iff nothing was completed. -/
theorem exitCode_sanitizers_eq_nothingBuilt_iff
    (h : SessionReady around color common variantsDir buildCommand bench variants plan)
    (hpaddable : plan.IsPaddable bench.host variants)
    (hdelivers : bench.sink.delivers (plan.reportOfAll bench.host variants)) :
    (bench.sanitizers variantsDir buildCommand).exitCode = 101
      ↔ plan.NothingCompleted bench.host variants := by
  rw [Plan.NothingCompleted, ← plan.all_not_isCompleted_iff, Effect.exitCode]
  by_cases hnone : variants = []
  · rw [h.result_sanitizers, if_pos hnone]
    simp [hnone, ExitCode.success]
  · rw [h.result_sanitizers_of_delivers hnone hpaddable hdelivers, Bench.resultOfSession, Plan.outcomes]
    split_ifs with hall
    · simp [hall, hnone, Failure.exitCode, ExitCode.nothingBuilt]
    · rw [Bench.resultOf]
      split_ifs with hfailures
      · simp [hall, Failure.exitCode, ExitCode.testsFailed]
      · simp [hall, ExitCode.success]

/-- What `sanitizers` answers when it is set up is what the session leads to. -/
theorem execute_eq {color : ColorChoice}
    (h : SessionReady around color.isOn common variantsDir buildCommand bench variants plan) :
    (Invocation.execute { color, command := .sanitizers common variantsDir buildCommand }
      around).exitCode = (bench.sanitizers variantsDir buildCommand).exitCode := by
  have hsetUp : Bench.setUp around color.isOn (Command.sanitizers common variantsDir
      buildCommand).common = (.ok bench, (Bench.setUp around color.isOn common).2) :=
    Prod.ext h.bench_eq rfl
  rw [execute_of_setUp_ok hsetUp]
  rfl

end SessionReady

/-- **Ready or not.** A session that is not ready fails as a command that cannot be set up. -/
theorem sessionFault_or_sessionReady (around : Surroundings) (color : ColorChoice) (common : Common)
    (variantsDir buildCommand : Option Text) (hmatcher : ¬MatcherFault around common) :
    (SessionFault around color.isOn common variantsDir buildCommand ∧
      (Invocation.execute { color, command := .sanitizers common variantsDir buildCommand }
        around).exitCode = 96) ∨
    ∃ bench variants plan,
      SessionReady around color.isOn common variantsDir buildCommand bench variants plan := by
  rcases Bench.setUp_cases around color.isOn common with ⟨hfault, -⟩ | ⟨-, hsetup, failure, events, hfailed, hcode⟩ |
    ⟨base, pattern, preferences, events, -, hsetUp⟩
  · exact absurd hfault hmatcher
  · refine .inl ⟨.setup hsetup, ?_⟩
    rw [execute_of_setUp_error hfailed]
    exact hcode
  have hbench := congrArg Prod.fst hsetUp
  generalize Bench.assemble around color.isOn common base pattern preferences = bench at hsetUp hbench
  have hexit : (Invocation.execute { color, command := .sanitizers common variantsDir buildCommand }
      around).exitCode = (bench.sanitizers variantsDir buildCommand).exitCode := by
    rw [execute_of_setUp_ok hsetUp]
    rfl
  rcases hdeclared : bench.declared variantsDir with ⟨err | variants, found⟩
  · refine .inl ⟨.variants hbench (congrArg Prod.fst hdeclared), ?_⟩
    rw [Bench.declared] at hdeclared
    rw [hexit]
    simp only [Bench.sanitizers, hdeclared]
    rfl
  have hvariants := congrArg Prod.fst hdeclared
  cases variants with
  | nil => exact .inr ⟨bench, [], bench.plan none, hbench, hvariants, fun hsome => absurd rfl hsome⟩
  | cons variant rest =>
    have hsome : variant :: rest ≠ [] := List.cons_ne_nil _ _
    cases hcommand : bench.buildCommand buildCommand with
    | ok command =>
      exact .inr ⟨bench, _, bench.plan command, hbench, hvariants, fun _ => ⟨command, hcommand, rfl⟩⟩
    | error failure =>
      refine .inl ⟨.buildCommand hbench hvariants hsome hcommand, ?_⟩
      rw [Bench.declared] at hdeclared
      rw [hexit]
      simp only [Bench.sanitizers, hdeclared, hcommand]
      exact Bench.exitCode_of_buildCommand hcommand

/-- Without a matcher `sanitizers` ends in a panic. -/
theorem exitCode_execute_of_matcherFault (color : ColorChoice) (variantsDir buildCommand : Option Text)
    (h : MatcherFault around common) :
    (Invocation.execute { color, command := .sanitizers common variantsDir buildCommand } around).exitCode = 101 := by
  have hpattern : MatcherFault around (Command.sanitizers common variantsDir buildCommand).common := h
  obtain ⟨journal, hcrashed⟩ := execute_of_matcherFault color hpattern
  rw [hcrashed]
  rfl

/-- **The exit code of `sanitizers`.** A command line that is understood but cannot be carried out gives 96, or 101
if the program panics over the pattern.  Otherwise the exit code is 110 if the sink does not take what is written of
the reports, 101 if a cell of a case table cannot be padded, and 110 if the sink cannot pass on what it took.  Of
reports that are delivered it is 101 iff there are variants and none of them was completed.  That is not iff there
are variants and every build failed: it is not, exactly if nothing was completed although a build succeeded. -/
theorem answer_sanitizers {color : ColorChoice}
    (h : Invocation.ofArguments around.host.processors around.host.environment arguments
      = .ok { color, command := .sanitizers common variantsDir buildCommand }) :
    (MatcherFault around common → (Startup.answer around arguments).exitCode = 101) ∧
    (¬MatcherFault around common → SessionFault around color.isOn common variantsDir buildCommand →
      (Startup.answer around arguments).exitCode = 96) ∧
    (¬MatcherFault around common → ¬SessionFault around color.isOn common variantsDir buildCommand →
      ∃ bench variants plan,
      SessionReady around color.isOn common variantsDir buildCommand bench variants plan ∧
      (¬around.sink.holds (plan.reportOfAll around.host variants) →
        (Startup.answer around arguments).exitCode = 110) ∧
      (¬plan.IsPaddable around.host variants → around.sink.delivers (plan.reportOfAll around.host variants) →
        (Startup.answer around arguments).exitCode = 101) ∧
      (plan.IsPaddable around.host variants → variants ≠ [] →
        ¬around.sink.delivers (plan.reportOfAll around.host variants) →
        (Startup.answer around arguments).exitCode = 110) ∧
      (plan.IsPaddable around.host variants → around.sink.delivers (plan.reportOfAll around.host variants) →
        ((Startup.answer around arguments).exitCode = 101
          ↔ plan.NothingCompleted around.host variants) ∧
        (¬((Startup.answer around arguments).exitCode = 101
          ↔ plan.NothingBuilt around.host variants)
            ↔ plan.NothingCompleted around.host variants ∧
              ∃ visit ∈ plan.visits around.host variants, visit.build = .ok ()))) := by
  rw [(answer_eq_execute h).1]
  refine ⟨exitCode_execute_of_matcherFault color variantsDir buildCommand, fun hmatcher hfault => ?_,
    fun hmatcher hfault => ?_⟩
  · rcases sessionFault_or_sessionReady around color common variantsDir buildCommand hmatcher with
      ⟨-, hexit⟩ | ⟨bench, variants, plan, hready⟩
    · exact hexit
    · exact absurd hfault hready.not_sessionFault
  · rcases sessionFault_or_sessionReady around color common variantsDir buildCommand hmatcher with
      ⟨hsetup, -⟩ | ⟨bench, variants, plan, hready⟩
    · exact absurd hsetup hfault
    refine ⟨bench, variants, plan, hready, ?_⟩
    obtain ⟨hhost, hsink⟩ := Bench.host_of_setUp hready.bench_eq
    rw [hready.execute_eq, ← hhost, ← hsink]
    refine ⟨hready.exitCode_sanitizers_of_not_holds, hready.exitCode_sanitizers_of_not_isPaddable,
      fun hpaddable hsome => hready.exitCode_sanitizers_of_not_delivers hsome hpaddable,
      fun hpaddable hdelivers => ?_⟩
    have hcode := hready.exitCode_sanitizers_eq_nothingBuilt_iff hpaddable hdelivers
    refine ⟨hcode, ?_⟩
    rw [hcode]
    constructor
    · intro hdiffer
      have hcompleted : plan.NothingCompleted bench.host variants :=
        Classical.byContradiction fun hcompleted => hdiffer
          ⟨fun hdone => absurd hdone hcompleted, fun hbuilt => hbuilt.nothingCompleted⟩
      refine ⟨hcompleted, (Plan.not_nothingBuilt_iff hcompleted).1 fun hbuilt => hdiffer ?_⟩
      exact ⟨fun _ => hbuilt, fun _ => hcompleted⟩
    · rintro ⟨hcompleted, hsome⟩ hsame
      exact (Plan.not_nothingBuilt_iff hcompleted).2 hsome (hsame.1 hcompleted)

end

/-- A machine with an empty plain file in the place of a variant's tree. -/
def plainFile : Surroundings :=
  { host :=
      { tree := (FileTree.empty.set [Utf8.encode "build".toList] .directory).set
          [Utf8.encode "build".toList, Utf8.encode "tests_san_asan".toList] (.file (.bytes []) 0o644)
        here := [], environment := .empty, processors := 1 }
    path := Utf8.encode "/".toList
    sink := .unbounded }

/-- The options `-d build`. -/
def plainOptions : Common :=
  { buildDir := "build".toList, pattern := Common.defaultPattern, configFile := none, threads := none
    timeout := none, failOnError := false }

/-- The arguments `sanitizers -d build`. -/
def plainArguments : List Text := ["sanitizers".toList, "-d".toList, "build".toList]

theorem ofArguments_plainFile :
    Invocation.ofArguments plainFile.host.processors plainFile.host.environment plainArguments
      = .ok { color := .auto, command := .sanitizers plainOptions none none } := by
  rfl

/-- The file declares a variant. -/
theorem variants_plainFile :
    Sanitizer.variants plainFile.host.tree [] "build".toList = (.ok ["asan".toList], []) := by
  cbv

/-- The file is not the directory that a variant's tree is to be. -/
theorem unsearchable_plainFile :
    Discovery.Unsearchable plainFile.host.tree [] (tree "build".toList "asan".toList) := by
  refine ⟨.notDirectory, nofun, ?_⟩
  cbv

/-- The variant is declared, and taken as it is. -/
theorem sessionReady_plainFile : ∃ bench, (bench.plan none).buildDir = "build".toList ∧
    (bench.plan none).trigger = Trigger.none ∧
    SessionReady plainFile (ColorChoice.isOn .auto) plainOptions none none bench ["asan".toList]
      (bench.plan none) := by
  refine ⟨_, ?_, ?_, rfl, ?_, fun _ => ⟨none, ?_, rfl⟩⟩
  · rfl
  · rfl
  · exact congrArg Prod.fst variants_plainFile
  · rfl

/-- The variant is built, and not completed. -/
theorem nothingCompleted_plainFile {plan : Plan} (hbuildDir : plan.buildDir = "build".toList)
    (htrigger : plan.trigger = Trigger.none) :
    plan.NothingCompleted plainFile.host ["asan".toList] ∧
      ∃ visit ∈ plan.visits plainFile.host ["asan".toList], visit.build = .ok () := by
  have hvisits : plan.visits plainFile.host ["asan".toList]
      = [{ variant := "asan".toList, build := .ok (), host := plainFile.host }] := by
    rw [Plan.visits, Plan.visits, Plan.visit, htrigger]
    rfl
  rw [Plan.NothingCompleted, hvisits, hbuildDir]
  refine ⟨⟨List.cons_ne_nil _ _, fun visit hvisit => .inr ?_⟩, _, List.mem_singleton_self _, rfl⟩
  obtain rfl := List.mem_singleton.1 hvisit
  exact unsearchable_plainFile

/-- Without a pattern that is one the exit code is 96; where the only variant is built and has a plain
file for its tree, the exit code is the one for builds that failed. -/
theorem answer_sanitizers_plainFile :
    (Startup.answer plainFile ["sanitizers".toList, "-p".toList, "[".toList]).exitCode = 96 ∧
    (Startup.answer plainFile plainArguments).exitCode = 101 ∧
    ∃ bench plan, SessionReady plainFile (ColorChoice.isOn .auto) plainOptions none none bench
      ["asan".toList] plan ∧ ¬plan.NothingBuilt plainFile.host ["asan".toList] := by
  constructor
  · have h : Invocation.ofArguments plainFile.host.processors plainFile.host.environment
        ["sanitizers".toList, "-p".toList, "[".toList]
          = .ok { color := .auto, command := .sanitizers { plainOptions with
              buildDir := Common.defaultBuildDir, pattern := "[".toList } none none } := by
      rfl
    obtain ⟨err, herror⟩ : ∃ err, Glob.NamePattern.ofText "[".toList = .error err := ⟨_, rfl⟩
    refine (answer_sanitizers h).2.1 ?_ (.setup (.pattern herror))
    rintro ⟨_, _, _, hlegible, -⟩
    exact absurd (hlegible.pattern_eq.symm.trans herror) (by simp)
  · obtain ⟨bench₀, hbuildDir, htrigger, hready₀⟩ := sessionReady_plainFile
    obtain ⟨hcompleted, hbuilt⟩ := nothingCompleted_plainFile hbuildDir htrigger
    obtain ⟨bench, variants, plan, hready, -, -, -, hexit⟩ :=
      (answer_sanitizers ofArguments_plainFile).2.2 hready₀.not_matcherFault hready₀.not_sessionFault
    obtain ⟨rfl, rfl, rfl⟩ := hready₀.unique hready (List.cons_ne_nil _ _)
    obtain ⟨hcode, hdiffer⟩ := hexit hcompleted.isPaddable rfl
    have hfailed := hcode.2 hcompleted
    refine ⟨hfailed, _, _, hready, fun hnothing => hdiffer.2 ⟨hcompleted, hbuilt⟩ ?_⟩
    exact ⟨fun _ => hnothing, fun _ => hfailed⟩

/-- **The exit code for builds that failed is not that of sessions whose builds all failed**: a plain
file in the place of a variant's tree is enough. -/
theorem not_exitCode_eq_nothingBuilt_iff :
    ¬∀ (around : Surroundings) (arguments : List Text) (color : ColorChoice) (common : Common)
      (variantsDir buildCommand : Option Text) (bench : Bench) (variants : List Text) (plan : Plan),
      Invocation.ofArguments around.host.processors around.host.environment arguments
        = .ok { color, command := .sanitizers common variantsDir buildCommand } →
      SessionReady around color.isOn common variantsDir buildCommand bench variants plan →
      plan.IsPaddable around.host variants → around.sink.delivers (plan.reportOfAll around.host variants) →
      ((Startup.answer around arguments).exitCode = 101 ↔ plan.NothingBuilt around.host variants) := by
  intro hdocumented
  obtain ⟨bench, hbuildDir, htrigger, hready⟩ := sessionReady_plainFile
  obtain ⟨hcompleted, hbuilt⟩ := nothingCompleted_plainFile hbuildDir htrigger
  obtain ⟨hhost, hsink⟩ := Bench.host_of_setUp hready.bench_eq
  have hdelivers : bench.sink.delivers ((bench.plan none).reportOfAll bench.host ["asan".toList]) := by
    rw [hsink]
    rfl
  have hcode : (Startup.answer plainFile plainArguments).exitCode = 101 := by
    rw [(answer_eq_execute ofArguments_plainFile).1, hready.execute_eq]
    rw [← hhost] at hcompleted
    exact (hready.exitCode_sanitizers_eq_nothingBuilt_iff hcompleted.isPaddable hdelivers).2 hcompleted
  have hnothing := (hdocumented plainFile plainArguments .auto plainOptions none none bench _ _
    ofArguments_plainFile hready hcompleted.isPaddable rfl).1 hcode
  exact (Plan.not_nothingBuilt_iff hcompleted).2 hbuilt hnothing

end Cli
end TestBench
