/-
# When `sanitizers` succeeds

The session is set up, its reports are delivered, and their case tables can be padded.  Then the exit code is 0
without variants, and otherwise:

| failures are to show | the exit code is 0 iff |
| --- | --- |
| no | some variant is completed (`Sanitizer.Plan.Completes`) |
| yes | every variant passes (`Sanitizer.Plan.Passes`) |

A variant passes iff it is completed and none of its test binaries fails.  A variant that is not completed
has no counts at all, and is never taken for one without failures (`hasFailures_resultAt_eq_false_iff`).

Where a case table cannot be padded the program panics, and its exit code 101 says nothing of the variants
(`not_exitCode_eq_success_iff`).
-/

import Mathlib
import TestBench.Proofs.Cli.SanitizersExit
import TestBench.Proofs.Run.Typing
import TestBench.Proofs.Sanitizer.Isolation

namespace TestBench

namespace Sanitizer
namespace Plan

/-- The variant was built, and its tree can be searched. -/
def Completes (plan : Plan) (visit : Visit) : Prop :=
  visit.build = .ok () ∧
    Discovery.Searchable visit.host.tree visit.host.here (tree plan.buildDir visit.variant)

/-- The variant is completed, and none of the test binaries in its tree fails. -/
def Passes (plan : Plan) (visit : Visit) : Prop :=
  plan.Completes visit ∧ ∀ path ∈ plan.pathsAt visit, ¬plan.runner.Fails visit.host path

/-- What became of a variant shows no failures iff the variant passes. -/
theorem hasFailures_resultAt_eq_false_iff (plan : Plan) (visit : Visit) :
    (plan.resultAt visit).hasFailures = false ↔ plan.Passes visit := by
  have hcompleted : (plan.resultAt visit).isCompleted = true ↔ plan.Completes visit :=
    (plan.resultAt_iff visit).1
  rw [Passes, ← hcompleted]
  rcases hbuild : visit.build with err | done
  · rw [(plan.resultAt_of_notBuilt hbuild).1]
    simp [VariantResult.hasFailures, VariantResult.isCompleted]
  · rcases hdiscovery : plan.discovery visit with ⟨err | paths, events⟩
    · rw [(plan.resultAt_of_notSearched hbuild hdiscovery).1]
      simp [VariantResult.hasFailures, VariantResult.isCompleted]
    · have hpaths : plan.pathsAt visit = paths := by
        rw [pathsAt, hdiscovery]
        rfl
      have hfails := plan.runner.hasFailures_execute_iff visit.host paths
      rw [(plan.resultAt_of_found hbuild hdiscovery).1, hpaths, trialsAt, VariantResult.hasFailures,
        ← Bool.not_eq_true, hfails]
      simp [VariantResult.isCompleted]

/-- Some outcome is that of a completed variant, unless none is. -/
theorem exists_completes_iff (plan : Plan) (visits : List Visit) :
    (∃ visit ∈ visits, plan.Completes visit) ↔
      ((visits.map plan.outcomeAt).all fun outcome => !outcome.result.isCompleted) = false := by
  rw [List.all_map, List.all_eq_false]
  refine exists_congr fun visit => and_congr_right fun _ => ?_
  have hcompleted : (plan.resultAt visit).isCompleted = true ↔ plan.Completes visit :=
    (plan.resultAt_iff visit).1
  rw [← hcompleted, Function.comp_apply, outcomeAt, Bool.not_eq_true', Bool.not_eq_false]

/-- Every variant passes iff no outcome shows failures. -/
theorem forall_passes_iff (plan : Plan) (visits : List Visit) :
    (∀ visit ∈ visits, plan.Passes visit) ↔
      ((visits.map plan.outcomeAt).any fun outcome => outcome.result.hasFailures) = false := by
  rw [List.any_map, List.any_eq_false]
  refine forall₂_congr fun visit _ => ?_
  rw [← hasFailures_resultAt_eq_false_iff, Function.comp_apply, outcomeAt, Bool.not_eq_true]

/-- Where there are variants, they cannot all pass without one that is completed. -/
theorem exists_completes_of_forall_passes {plan : Plan} {host : Host} {variants : List Text}
    (hsome : variants ≠ []) (h : ∀ visit ∈ plan.visits host variants, plan.Passes visit) :
    ∃ visit ∈ plan.visits host variants, plan.Completes visit := by
  obtain ⟨variant, rest, rfl⟩ := List.exists_cons_of_ne_nil hsome
  exact ⟨_, List.mem_cons_self .., (h _ (List.mem_cons_self ..)).1⟩

end Plan
end Sanitizer

namespace Cli

open Sanitizer

section

variable {around : Surroundings} {arguments : List Text} {common : Common}
  {variantsDir buildCommand : Option Text} {bench : Bench} {variants : List Text} {plan : Plan}

/-- A session whose reports are delivered succeeds iff it has no variants, or completes one and, where failures are
to show, has none. -/
theorem SessionReady.exitCode_sanitizers_eq_success_iff {color : Bool}
    (h : SessionReady around color common variantsDir buildCommand bench variants plan)
    (hpaddable : plan.IsPaddable bench.host variants)
    (hdelivers : bench.sink.delivers (plan.reportOfAll bench.host variants)) :
    (bench.sanitizers variantsDir buildCommand).exitCode = 0 ↔ variants = [] ∨
      ((∃ visit ∈ plan.visits bench.host variants, plan.Completes visit) ∧
        (bench.failOnError = true → ∀ visit ∈ plan.visits bench.host variants, plan.Passes visit)) := by
  rw [Plan.exists_completes_iff, Plan.forall_passes_iff, Effect.exitCode]
  by_cases hnone : variants = []
  · rw [h.result_sanitizers, if_pos hnone]
    simp [hnone, ExitCode.success]
  · rw [h.result_sanitizers_of_delivers hnone hpaddable hdelivers, Bench.resultOfSession, Plan.outcomes]
    split_ifs with hall
    · simp [hall, hnone, Failure.exitCode, ExitCode.nothingBuilt]
    · rw [Bench.resultOf]
      split_ifs with hfailures
      · rw [Bool.and_eq_true] at hfailures
        simp [hall, hnone, hfailures.1, hfailures.2, Failure.exitCode, ExitCode.testsFailed]
      · have hgate : bench.failOnError = true → ((plan.visits bench.host variants).map
            plan.outcomeAt).any (fun outcome => outcome.result.hasFailures) = false := by
          intro hshow
          simpa [hshow] using hfailures
        simp only [hall, hnone, ExitCode.success, false_or, true_and, true_iff]
        exact hgate

/-- **`sanitizers` gates on every variant,** as long as no report crashes the program.  Where failures are to show,
by option or by settings, the exit code is 0 iff there are no variants, or every one was built, has a tree that can
be searched, and has no test binary that fails.  Where they are not, it is 0 iff there are no variants, or one of
them was built and has a tree that can be searched.  But where a case table cannot be padded the exit code is 101,
and so it is where the program panics over the pattern. -/
theorem answer_sanitizers_eq_success_iff {color : ColorChoice}
    (h : Invocation.ofArguments around.host.processors around.host.environment arguments
      = .ok { color, command := .sanitizers common variantsDir buildCommand }) :
    (MatcherFault around common → (Startup.answer around arguments).exitCode = 101) ∧
    (¬MatcherFault around common → ¬SessionFault around color.isOn common variantsDir buildCommand →
      ∃ base pattern preferences bench variants plan,
      Ready around common base pattern preferences ∧
      bench = Bench.assemble around color.isOn common base pattern preferences ∧
      SessionReady around color.isOn common variantsDir buildCommand bench variants plan ∧
      (¬plan.IsPaddable around.host variants → around.sink.delivers (plan.reportOfAll around.host variants) →
        (Startup.answer around arguments).exitCode = 101) ∧
      (plan.IsPaddable around.host variants → around.sink.delivers (plan.reportOfAll around.host variants) →
        (common.failOnError = true ∨ preferences.failOnError = true →
          ((Startup.answer around arguments).exitCode = 0 ↔ variants = [] ∨
            ∀ visit ∈ plan.visits around.host variants, plan.Passes visit)) ∧
        (¬(common.failOnError = true ∨ preferences.failOnError = true) →
          ((Startup.answer around arguments).exitCode = 0 ↔ variants = [] ∨
            ∃ visit ∈ plan.visits around.host variants, plan.Completes visit)))) := by
  rw [(answer_eq_execute h).1]
  refine ⟨fun hmatcher => ?_, fun hmatcher hfault => ?_⟩
  · exact exitCode_execute_of_matcherFault color variantsDir buildCommand hmatcher
  obtain ⟨base, pattern, preferences, events, hready, hsetUp⟩ :=
    Bench.setUp_of_not_setupFault color.isOn hmatcher fun hsetup => hfault (.setup hsetup)
  rcases sessionFault_or_sessionReady around color common variantsDir buildCommand hmatcher with
    ⟨hsession, -⟩ | ⟨bench, variants, plan, hsession⟩
  · exact absurd hsession hfault
  have hbench : bench = Bench.assemble around color.isOn common base pattern preferences :=
    Except.ok.inj (hsession.bench_eq.symm.trans (congrArg Prod.fst hsetUp))
  have hshow : bench.failOnError = true
      ↔ common.failOnError = true ∨ preferences.failOnError = true := by
    rw [hbench, ← Bool.or_eq_true]
    rfl
  refine ⟨base, pattern, preferences, bench, variants, plan, hready, hbench, hsession, ?_⟩
  obtain ⟨hhost, hsink⟩ := Bench.host_of_setUp hsession.bench_eq
  rw [hsession.execute_eq, ← hhost, ← hsink, ← hshow]
  refine ⟨hsession.exitCode_sanitizers_of_not_isPaddable, fun hpaddable hdelivers => ?_⟩
  rw [hsession.exitCode_sanitizers_eq_success_iff hpaddable hdelivers]
  refine ⟨fun hon => ?_, fun hoff => ?_⟩
  · constructor
    · rintro (hnone | ⟨-, hpass⟩)
      · exact .inl hnone
      · exact .inr (hpass hon)
    · rintro (hnone | hpass)
      · exact .inl hnone
      · by_cases hnone : variants = []
        · exact .inl hnone
        · exact .inr ⟨Plan.exists_completes_of_forall_passes hnone hpass, fun _ => hpass⟩
  · refine or_congr_right ⟨fun hdone => hdone.1, fun hdone => ⟨hdone, fun hon => absurd hon hoff⟩⟩

end

/-- A machine with two variants: the tree of one is an empty directory, that of the other a plain file. -/
def halfBuilt : Surroundings :=
  { host :=
      { tree := ((FileTree.empty.set [Utf8.encode "build".toList] .directory).set
          [Utf8.encode "build".toList, Utf8.encode "tests_san_asan".toList] .directory).set
          [Utf8.encode "build".toList, Utf8.encode "tests_san_lsan".toList] (.file (.bytes []) 0o644)
        here := [], environment := .empty, processors := 1 }
    path := Utf8.encode "/".toList
    sink := .unbounded }

theorem variants_halfBuilt :
    Sanitizer.variants halfBuilt.host.tree [] "build".toList = (.ok ["asan".toList, "lsan".toList], []) := by
  cbv

theorem sessionReady_halfBuilt (failOnError : Bool) :
    ∃ bench, bench.failOnError = failOnError ∧ (bench.plan none).buildDir = "build".toList ∧
      (bench.plan none).trigger = Trigger.none ∧
      SessionReady halfBuilt (ColorChoice.isOn .auto) { plainOptions with failOnError } none none bench
        ["asan".toList, "lsan".toList] (bench.plan none) := by
  refine ⟨_, ?_, ?_, ?_, rfl, ?_, fun _ => ⟨none, ?_, rfl⟩⟩
  · exact Bool.or_false failOnError
  · rfl
  · rfl
  · exact congrArg Prod.fst variants_halfBuilt
  · rfl

/-- Both variants are taken as they are. -/
theorem visits_halfBuilt {plan : Plan} (htrigger : plan.trigger = Trigger.none) :
    plan.visits halfBuilt.host ["asan".toList, "lsan".toList]
      = [{ variant := "asan".toList, build := .ok (), host := halfBuilt.host },
          { variant := "lsan".toList, build := .ok (), host := halfBuilt.host }] := by
  simp only [Plan.visits, Plan.visit, htrigger]
  rfl

/-- One variant is completed, the other is not. -/
theorem completes_halfBuilt {plan : Plan} (hbuildDir : plan.buildDir = "build".toList)
    (htrigger : plan.trigger = Trigger.none) :
    (∃ visit ∈ plan.visits halfBuilt.host ["asan".toList, "lsan".toList], plan.Completes visit) ∧
      ¬∀ visit ∈ plan.visits halfBuilt.host ["asan".toList, "lsan".toList], plan.Passes visit := by
  rw [visits_halfBuilt htrigger]
  constructor
  · refine ⟨_, List.mem_cons_self .., rfl, .inl ⟨[], ?_⟩⟩
    rw [hbuildDir]
    cbv
  · intro hpass
    obtain ⟨⟨-, hsearchable⟩, -⟩ := hpass _ (List.mem_cons_of_mem _ (List.mem_cons_self ..))
    rw [hbuildDir] at hsearchable
    refine Discovery.not_unsearchable_iff.2 hsearchable ⟨.notDirectory, by decide, ?_⟩
    cbv

/-- No binary is run in either tree, so there are no rows to pad. -/
theorem isPaddable_halfBuilt {plan : Plan} (hbuildDir : plan.buildDir = "build".toList)
    (htrigger : plan.trigger = Trigger.none) :
    plan.IsPaddable halfBuilt.host ["asan".toList, "lsan".toList] := by
  have hasan : plan.discovery { variant := "asan".toList, build := .ok (), host := halfBuilt.host }
      = (.ok [], []) := by
    have hwalk : halfBuilt.host.tree.walk [] (Utf8.encode (tree "build".toList "asan".toList)) = .ok [] := by
      cbv
    have hhere : halfBuilt.host.here = [] := rfl
    rw [Plan.discovery, hbuildDir, Discovery.discover, hhere, hwalk]
    rfl
  rw [Plan.IsPaddable, visits_halfBuilt htrigger]
  intro visit hvisit
  rcases List.mem_cons.1 hvisit with rfl | hvisit
  · rw [(plan.resultAt_of_found rfl hasan).2.1, Plan.trialsAt, Run.Runner.execute_eq]
    exact Report.isPaddable_nil _
  · obtain rfl := List.mem_singleton.1 hvisit
    have hsearch : Discovery.Unsearchable halfBuilt.host.tree [] (tree "build".toList "lsan".toList) :=
      ⟨.notDirectory, by decide, by cbv⟩
    rw [← hbuildDir] at hsearch
    rw [plan.ranAt_of_not_completed (.inr hsearch)]
    exact Report.isPaddable_nil _

/-- Where one variant is completed and the other is not, the command succeeds, unless failures are to
show. -/
theorem answer_sanitizers_eq_success_iff_halfBuilt :
    (Startup.answer halfBuilt plainArguments).exitCode = 0 ∧
      (Startup.answer halfBuilt (plainArguments ++ ["--fail-on-error".toList])).exitCode ≠ 0 := by
  constructor
  · have h : Invocation.ofArguments halfBuilt.host.processors halfBuilt.host.environment plainArguments
        = .ok { color := .auto, command := .sanitizers plainOptions none none } := by
      rfl
    obtain ⟨bench₀, hshow, hbuildDir, htrigger, hready₀⟩ := sessionReady_halfBuilt false
    obtain ⟨base, pattern, preferences, bench, variants, plan, -, rfl, hsession, -, hexit⟩ :=
      (answer_sanitizers_eq_success_iff h).2 hready₀.not_matcherFault hready₀.not_sessionFault
    obtain ⟨rfl, rfl, rfl⟩ := hready₀.unique hsession (List.cons_ne_nil _ _)
    have hoff : ¬(plainOptions.failOnError = true ∨ preferences.failOnError = true) := by
      rw [← Bool.or_eq_true, Bool.not_eq_true]
      exact hshow
    have hexit := hexit (isPaddable_halfBuilt hbuildDir htrigger) rfl
    exact (hexit.2 hoff).2 (.inr (completes_halfBuilt hbuildDir htrigger).1)
  · have h : Invocation.ofArguments halfBuilt.host.processors halfBuilt.host.environment
        (plainArguments ++ ["--fail-on-error".toList])
          = .ok { color := .auto
                  command := .sanitizers { plainOptions with failOnError := true } none none } := by
      rfl
    obtain ⟨bench₀, -, hbuildDir, htrigger, hready₀⟩ := sessionReady_halfBuilt true
    obtain ⟨base, pattern, preferences, bench, variants, plan, -, -, hsession, -, hexit⟩ :=
      (answer_sanitizers_eq_success_iff h).2 hready₀.not_matcherFault hready₀.not_sessionFault
    obtain ⟨rfl, rfl, rfl⟩ := hready₀.unique hsession (List.cons_ne_nil _ _)
    have hexit := hexit (isPaddable_halfBuilt hbuildDir htrigger) rfl
    intro hcode
    rcases (hexit.1 (.inl rfl)).1 hcode with hnone | hpass
    · exact absurd hnone (List.cons_ne_nil _ _)
    · exact (completes_halfBuilt hbuildDir htrigger).2 hpass

/-- A host with one variant that has one test binary. -/
def variantHost : Host :=
  { tree := ((FileTree.empty.set [Utf8.encode "build".toList] .directory).set
      [Utf8.encode "build".toList, Utf8.encode "tests_san_asan".toList] .directory).set
      [Utf8.encode "build".toList, Utf8.encode "tests_san_asan".toList, Utf8.encode "a_tests".toList]
        (.file (.bytes []) 0o755)
    here := [], environment := .empty, processors := 1 }

/-- The machine of that host, where this is made of the binary. -/
def variantMachine (supervisor : Run.Supervisor) : Surroundings :=
  { host := variantHost, path := Utf8.encode "/".toList, sink := .unbounded, supervisor }

theorem variants_variantHost :
    Sanitizer.variants variantHost.tree [] "build".toList = (.ok ["asan".toList], []) := by
  cbv

theorem discover_variantHost : ∃ pattern, Glob.NamePattern.ofText Common.defaultPattern = .ok pattern ∧
    pattern.isShallow = true ∧
    Discovery.discover variantHost.tree [] pattern (tree "build".toList "asan".toList)
      = (.ok ["build/tests_san_asan/a_tests".toList], []) :=
  ⟨_, rfl, rfl, by cbv⟩

/-- There is no file to read settings from. -/
theorem load_variantHost : ∃ preferences events,
    Settings.load 1 variantHost.tree [] "/".toList none = (.ok preferences, events) ∧
      preferences.failOnError = false ∧ preferences.variantsDir = none ∧ preferences.buildCommand = none :=
  ⟨_, _, rfl, rfl, rfl, rfl⟩

/-- The variant is declared, and taken as it is. -/
theorem sessionReady_variantMachine (supervisor : Run.Supervisor) : ∃ bench, bench.failOnError = false ∧
    (bench.plan none).buildDir = "build".toList ∧
    Glob.NamePattern.ofText Common.defaultPattern = .ok (bench.plan none).pattern ∧
    (bench.plan none).runner.supervisor = supervisor ∧ (bench.plan none).trigger = Trigger.none ∧
    SessionReady (variantMachine supervisor) (ColorChoice.isOn .auto) plainOptions none none bench ["asan".toList]
      (bench.plan none) := by
  obtain ⟨pattern, hpattern, hshallow, -⟩ := discover_variantHost
  obtain ⟨preferences, events, hload, hshow, hdir, hcommand⟩ := load_variantHost
  have hready : Ready (variantMachine supervisor) plainOptions "/".toList pattern preferences :=
    { here_eq := rfl, base_eq := rfl, settings_eq := congrArg Prod.fst hload, pattern_eq := hpattern
      hasMatcher_eq := hshallow, runnerFault_eq := rfl }
  refine ⟨Bench.assemble (variantMachine supervisor) (ColorChoice.isOn .auto) plainOptions "/".toList pattern
    preferences, hshow, rfl, hpattern, rfl, rfl, Bench.setUp_of_ready _ hready, ?_, fun _ => ⟨none, ?_, rfl⟩⟩
  · have hdeclared : Bench.variantsDir (Bench.assemble (variantMachine supervisor) (ColorChoice.isOn .auto)
        plainOptions "/".toList pattern preferences) none = "build".toList := by
      rw [Bench.variantsDir, Bench.assemble, hdir]
      rfl
    rw [Bench.declared, hdeclared]
    exact congrArg Prod.fst variants_variantHost
  · rw [Bench.buildCommand, Bench.assemble, hcommand]
    rfl

section

variable {plan : Plan}

theorem visits_variantHost (htrigger : plan.trigger = Trigger.none) :
    plan.visits variantHost ["asan".toList]
      = [{ variant := "asan".toList, build := .ok (), host := variantHost }] := by
  simp only [Plan.visits, Plan.visit, htrigger]
  rfl

theorem discovery_variantHost (hbuildDir : plan.buildDir = "build".toList)
    (hpattern : Glob.NamePattern.ofText Common.defaultPattern = .ok plan.pattern) :
    plan.discovery { variant := "asan".toList, build := .ok (), host := variantHost }
      = (.ok ["build/tests_san_asan/a_tests".toList], []) := by
  obtain ⟨pattern, hdefault, -, hdiscover⟩ := discover_variantHost
  rw [Plan.discovery, hbuildDir, ← Except.ok.inj (hdefault.symm.trans hpattern)]
  exact hdiscover

/-- The variant is completed. -/
theorem completes_variantHost (hbuildDir : plan.buildDir = "build".toList)
    (hpattern : Glob.NamePattern.ofText Common.defaultPattern = .ok plan.pattern)
    (htrigger : plan.trigger = Trigger.none) :
    ∃ visit ∈ plan.visits variantHost ["asan".toList], plan.Completes visit := by
  rw [visits_variantHost htrigger]
  refine ⟨_, List.mem_singleton_self _, (plan.resultAt_iff _).1.1 ?_⟩
  rw [(plan.resultAt_of_found rfl (discovery_variantHost hbuildDir hpattern)).1]
  rfl

/-- A binary that prints a name that other names cannot be padded to leaves a report that cannot be padded. -/
theorem not_isPaddable_variantHost (hbuildDir : plan.buildDir = "build".toList)
    (hpattern : Glob.NamePattern.ofText Common.defaultPattern = .ok plan.pattern)
    (hsupervisor : plan.runner.supervisor = .typing Run.sprawlingOutput) (htrigger : plan.trigger = Trigger.none) :
    ¬plan.IsPaddable variantHost ["asan".toList] := by
  intro h
  have hran := h _ (visits_variantHost htrigger ▸ List.mem_singleton_self _)
  rw [(plan.resultAt_of_found rfl (discovery_variantHost hbuildDir hpattern)).2.1, Plan.trialsAt,
    Run.Runner.execute_eq, List.map_map, List.map_singleton, Function.comp_apply,
    Run.execution_runOne_typing hsupervisor, Run.judge_sprawlingOutput] at hran
  exact Report.not_isPaddable_sprawling _ _ hran

end

/-- **Success is not what the gate says** where a binary prints such a name: its variant is completed and failures are
not to show, and yet the exit code is not 0. -/
theorem not_exitCode_eq_success_iff :
    ¬∀ (around : Surroundings) (arguments : List Text) (color : ColorChoice) (common : Common)
      (variantsDir buildCommand : Option Text) (bench : Bench) (variants : List Text) (plan : Plan),
      Invocation.ofArguments around.host.processors around.host.environment arguments
        = .ok { color, command := .sanitizers common variantsDir buildCommand } →
      SessionReady around color.isOn common variantsDir buildCommand bench variants plan →
      around.sink = .unbounded → bench.failOnError = false →
      ((Startup.answer around arguments).exitCode = 0 ↔ variants = [] ∨
        ∃ visit ∈ plan.visits around.host variants, plan.Completes visit) := by
  intro hdocumented
  let around := variantMachine (.typing Run.sprawlingOutput)
  obtain ⟨bench, hshow, hbuildDir, hpattern, hsupervisor, htrigger, hready⟩ :=
    sessionReady_variantMachine (.typing Run.sprawlingOutput)
  obtain ⟨hhost, hsink⟩ := Bench.host_of_setUp hready.bench_eq
  have h : Invocation.ofArguments around.host.processors around.host.environment plainArguments
      = .ok { color := .auto, command := .sanitizers plainOptions none none } := by
    rfl
  have hcode : (Startup.answer around plainArguments).exitCode = 101 := by
    rw [(answer_eq_execute h).1, hready.execute_eq]
    refine hready.exitCode_sanitizers_of_not_isPaddable ?_ ?_
    · rw [hhost]
      exact not_isPaddable_variantHost hbuildDir hpattern hsupervisor htrigger
    · rw [hsink]
      rfl
  have hsuccess := (hdocumented around plainArguments .auto plainOptions none none bench _ _ h hready rfl hshow).2
    (.inr (completes_variantHost hbuildDir hpattern htrigger))
  exact absurd (hcode.symm.trans hsuccess) (by decide)

end Cli
end TestBench
