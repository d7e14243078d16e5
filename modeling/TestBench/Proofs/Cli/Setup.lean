/-
# When a command can be set up

| definition | what it is |
| --- | --- |
| `SetupFault` | one of the things that keep a command from being set up |
| `MatcherFault` | all is in order up to the pattern, and its matcher cannot be put together |
| `Ready` | what a command is set up with |

A command is ready exactly if there is no fault of either kind (`Ready.not_setupFault`,
`Ready.not_matcherFault`, `setUp_cases`).  Without a matcher the program panics; with another fault the command
fails as one that cannot be set up; without any it is put together from what it is ready with.
-/

import TestBench.Cli.Startup
import TestBench.Proofs.Text.Utf8

namespace TestBench
namespace Cli

/-- The settings that a command finds in the file it reads, or why there are none. -/
def Surroundings.settings (around : Surroundings) (base : Text) (common : Common) :
    Except Settings.SourceError Settings.Preferences :=
  (Settings.load around.host.processors around.host.tree around.host.here base common.configFile).1

/-- Something keeps a command from being set up. -/
inductive SetupFault (around : Surroundings) (common : Common) : Prop
  /-- There is no working directory. -/
  | gone (h : around.host.tree.entry? around.host.here ≠ some .directory)
  /-- Its path is not text. -/
  | notText (h : ∀ base, Utf8.encode base ≠ around.path)
  | settings {base : Text} {err : Settings.SourceError} (hbase : Utf8.encode base = around.path)
      (h : around.settings base common = .error err)
  | pattern {err : Glob.PatternError} (h : Glob.NamePattern.ofText common.pattern = .error err)
  /-- Test binaries cannot be run at all. -/
  | runner {cause : SystemError} (h : around.runnerFault = some cause)

/-- The working directory, the settings and the pattern of a command are these. -/
structure Legible (around : Surroundings) (common : Common) (base : Text) (pattern : Glob.NamePattern)
    (preferences : Settings.Preferences) : Prop where
  here_eq : around.host.tree.entry? around.host.here = some .directory
  base_eq : Utf8.encode base = around.path
  settings_eq : around.settings base common = .ok preferences
  pattern_eq : Glob.NamePattern.ofText common.pattern = .ok pattern

/-- The program panics over the pattern. -/
def MatcherFault (around : Surroundings) (common : Common) : Prop :=
  ∃ base pattern preferences, Legible around common base pattern preferences ∧ around.hasMatcher pattern = false

/-- A command is set up with these. -/
structure Ready (around : Surroundings) (common : Common) (base : Text) (pattern : Glob.NamePattern)
    (preferences : Settings.Preferences) : Prop extends Legible around common base pattern preferences where
  hasMatcher_eq : around.hasMatcher pattern = true
  runnerFault_eq : around.runnerFault = none

section

variable {around : Surroundings} {common : Common} {base : Text} {pattern : Glob.NamePattern}
  {preferences : Settings.Preferences}

theorem Ready.not_setupFault (h : Ready around common base pattern preferences) : ¬SetupFault around common := by
  rintro (hgone | hnotText | ⟨hbase, hsettings⟩ | hpattern | hrunner)
  · exact hgone h.here_eq
  · exact hnotText base h.base_eq
  · rw [Utf8.encode_injective (hbase.trans h.base_eq.symm), h.settings_eq] at hsettings
    simp at hsettings
  · rw [h.pattern_eq] at hpattern
    simp at hpattern
  · rw [h.runnerFault_eq] at hrunner
    simp at hrunner

/-- The pattern alone decides whether there is a matcher. -/
theorem not_matcherFault (hpattern : Glob.NamePattern.ofText common.pattern = .ok pattern)
    (h : around.hasMatcher pattern = true) : ¬MatcherFault around common := by
  rintro ⟨_, pattern', _, hlegible, hmatcher⟩
  rw [← Except.ok.inj (hpattern.symm.trans hlegible.pattern_eq), h] at hmatcher
  exact absurd hmatcher (by decide)

theorem Ready.not_matcherFault (h : Ready around common base pattern preferences) : ¬MatcherFault around common :=
  Cli.not_matcherFault h.pattern_eq h.hasMatcher_eq

end

namespace Bench

/-- The working directory is called by the text of its path. -/
theorem workingDirectory_eq_ok_iff {around : Surroundings} {base : Text} :
    workingDirectory around = .ok base ↔
      around.host.tree.entry? around.host.here = some .directory ∧ Utf8.encode base = around.path := by
  rw [workingDirectory, ← Utf8.toText?_eq_some_iff]
  split
  next hhere =>
    cases Utf8.toText? around.path <;> simp [hhere]
  next hhere => simp [hhere]

/-- There is no name for the working directory iff it is not there or its path is not text. -/
theorem setupFault_of_workingDirectory {around : Surroundings} (common : Common) {failure : Failure}
    (h : workingDirectory around = .error failure) :
    SetupFault around common ∧ failure.exitCode = ExitCode.setup := by
  rw [workingDirectory] at h
  split at h
  next hhere =>
    split at h
    · simp at h
    next hnone =>
      obtain rfl := Except.error.inj h
      refine ⟨.notText fun base hbase => ?_, rfl⟩
      exact absurd (hnone.symm.trans (Utf8.toText?_eq_some_iff.2 hbase)) (by simp)
  next hhere =>
    obtain rfl := Except.error.inj h
    exact ⟨.gone hhere, rfl⟩

/-- **Set up or not.** The program panics over the pattern; or the command fails with the exit code for it, and
then there is a fault; or it is put together from what it is ready with. -/
theorem setUp_cases (around : Surroundings) (color : Bool) (common : Common) :
    (MatcherFault around common ∧ ∃ events, setUp around color common = (.error .crashed, events)) ∨
    (¬MatcherFault around common ∧ SetupFault around common ∧ ∃ failure events,
      setUp around color common = (.error failure, events) ∧ failure.exitCode = ExitCode.setup) ∨
    ∃ base pattern preferences events, Ready around common base pattern preferences ∧
      setUp around color common
        = (.ok (assemble around color common base pattern preferences), events) := by
  cases hbase : workingDirectory around with
  | error failure =>
    obtain ⟨hfault, hcode⟩ := setupFault_of_workingDirectory common hbase
    refine .inr (.inl ⟨?_, hfault, failure, [], by rw [setUp, hbase], hcode⟩)
    rintro ⟨base, _, _, hlegible, -⟩
    have hfound := workingDirectory_eq_ok_iff.2 ⟨hlegible.here_eq, hlegible.base_eq⟩
    exact absurd (hbase.symm.trans hfound) (by simp)
  | ok base =>
    obtain ⟨hhere, htext⟩ := workingDirectory_eq_ok_iff.1 hbase
    rcases hload : Settings.load around.host.processors around.host.tree around.host.here base
      common.configFile with ⟨err | preferences, events⟩
    · have hsettings : around.settings base common = .error err := by
        rw [Surroundings.settings, hload]
      refine .inr (.inl ⟨?_, .settings htext hsettings, .settings err, events, ?_, rfl⟩)
      · rintro ⟨base', _, _, hlegible, -⟩
        obtain rfl := Utf8.encode_injective (hlegible.base_eq.trans htext.symm)
        exact absurd (hsettings.symm.trans hlegible.settings_eq) (by simp)
      · simp only [setUp, hbase, hload]
    · have hsettings : around.settings base common = .ok preferences := by
        rw [Surroundings.settings, hload]
      cases hpattern : Glob.NamePattern.ofText common.pattern with
      | error err =>
        refine .inr (.inl ⟨?_, .pattern hpattern, .pattern err, events, ?_, rfl⟩)
        · rintro ⟨_, _, _, hlegible, -⟩
          exact absurd (hpattern.symm.trans hlegible.pattern_eq) (by simp)
        · simp only [setUp, hbase, hload, hpattern]
      | ok pattern =>
        have hlegible : Legible around common base pattern preferences := ⟨hhere, htext, hsettings, hpattern⟩
        cases hmatcher : around.hasMatcher pattern with
        | false =>
          refine .inl ⟨⟨base, pattern, preferences, hlegible, hmatcher⟩, events, ?_⟩
          simp only [setUp, hbase, hload, hpattern, hmatcher]
          rfl
        | true =>
          cases hrunner : around.runnerFault with
          | some cause =>
            refine .inr (.inl ⟨not_matcherFault hpattern hmatcher, .runner hrunner, .runner cause, events, ?_, rfl⟩)
            simp only [setUp, hbase, hload, hpattern, hmatcher, hrunner]
            rfl
          | none =>
            refine .inr (.inr ⟨base, pattern, preferences,
              events ++ [readyEvent (threadsFor around common preferences)], ⟨hlegible, hmatcher, hrunner⟩, ?_⟩)
            simp only [setUp, hbase, hload, hpattern, hmatcher, hrunner]
            rfl

/-- What is set up was ready. -/
theorem exists_ready_of_setUp {around : Surroundings} {color : Bool} {common : Common} {bench : Bench}
    (h : (setUp around color common).1 = .ok bench) :
    ∃ base pattern preferences, Ready around common base pattern preferences ∧
      bench = assemble around color common base pattern preferences := by
  rcases setUp_cases around color common with ⟨-, events, hfailed⟩ | ⟨-, -, failure, events, hfailed, -⟩ |
    ⟨base, pattern, preferences, events, hready, hsetUp⟩
  · rw [hfailed] at h
    cases h
  · rw [hfailed] at h
    cases h
  · rw [hsetUp] at h
    exact ⟨base, pattern, preferences, hready, (Except.ok.inj h).symm⟩

/-- What is ready is set up. -/
theorem setUp_of_ready {around : Surroundings} (color : Bool) {common : Common} {base : Text}
    {pattern : Glob.NamePattern} {preferences : Settings.Preferences}
    (h : Ready around common base pattern preferences) :
    (setUp around color common).1 = .ok (assemble around color common base pattern preferences) := by
  rcases setUp_cases around color common with ⟨hfault, -⟩ | ⟨-, hfault, -⟩ |
    ⟨base', pattern', preferences', events, hready, hsetUp⟩
  · exact absurd hfault h.not_matcherFault
  · exact absurd hfault h.not_setupFault
  · obtain rfl := Utf8.encode_injective (h.base_eq.trans hready.base_eq.symm)
    obtain rfl := Except.ok.inj (h.pattern_eq.symm.trans hready.pattern_eq)
    obtain rfl := Except.ok.inj (h.settings_eq.symm.trans hready.settings_eq)
    rw [hsetUp]

/-- Without a matcher the program panics. -/
theorem setUp_of_matcherFault {around : Surroundings} (color : Bool) {common : Common}
    (h : MatcherFault around common) : ∃ events, setUp around color common = (.error .crashed, events) := by
  rcases setUp_cases around color common with ⟨-, hcrashed⟩ | ⟨hno, -⟩ | ⟨_, _, _, _, hready, -⟩
  · exact hcrashed
  · exact absurd h hno
  · exact absurd h hready.not_matcherFault

/-- A command without a fault is put together. -/
theorem setUp_of_not_setupFault {around : Surroundings} (color : Bool) {common : Common}
    (hmatcher : ¬MatcherFault around common) (h : ¬SetupFault around common) :
    ∃ base pattern preferences events, Ready around common base pattern preferences ∧
      setUp around color common
        = (.ok (assemble around color common base pattern preferences), events) := by
  rcases setUp_cases around color common with ⟨hfault, -⟩ | ⟨-, hfault, -⟩ | hready
  · exact absurd hfault hmatcher
  · exact absurd hfault h
  · exact hready

end Bench

/-! ### From the command line to the command -/

section

variable {around : Surroundings} {arguments : List Text} {color : ColorChoice} {command : Command}

/-- The answer to a command line that is understood is what the command leads to. -/
theorem answer_eq_execute
    (h : Invocation.ofArguments around.host.processors around.host.environment arguments
      = .ok { color, command }) :
    (Startup.answer around arguments).exitCode
        = (Invocation.execute { color, command } around).exitCode ∧
      (Startup.answer around arguments).stdout
        = (Invocation.execute { color, command } around).stdout := by
  rw [Startup.answer, h]
  exact ⟨rfl, rfl⟩

theorem execute_of_setUp_error {failure : Failure} {events : List Log.Event}
    (h : Bench.setUp around color.isOn command.common = (.error failure, events)) :
    Invocation.execute { color, command } around = .failed failure (.ofEvents events) := by
  simp only [Invocation.execute, h]

/-- A command whose pattern has no matcher panics before it writes or runs anything. -/
theorem execute_of_matcherFault (color : ColorChoice) (h : MatcherFault around command.common) :
    ∃ journal, Invocation.execute { color, command } around = .failed .crashed journal := by
  obtain ⟨events, hcrashed⟩ := Bench.setUp_of_matcherFault color.isOn h
  exact ⟨.ofEvents events, execute_of_setUp_error hcrashed⟩

theorem execute_of_setUp_ok {bench : Bench} {events : List Log.Event}
    (h : Bench.setUp around color.isOn command.common = (.ok bench, events)) :
    Invocation.execute { color, command } around = { command.carryOut bench with
      journal := .ofEvents events ++ (command.carryOut bench).journal } := by
  simp only [Invocation.execute, h]

end

end Cli
end TestBench
