/-
# The limit that a diagnostic names

A binary that a limit ran out for, and that did not end well all the same, has a diagnostic that begins with the limit.
The text of the limit is

| given back | it sets |
| --- | --- |
| as the limit of a command line that has none | the limit, and nothing else |
| as the limit of a file, alone or among other settings | the limit, and nothing else |

to the very duration that ran out (`namedLimit_readsBack`), whatever its size.  So diagnostics of different limits are
different.  What stands behind the limit, if standard output is no text, is set off by a semicolon, and there is none
in the text of a duration.
-/

import TestBench.Proofs.Cli.Limit
import TestBench.Proofs.Cli.Setup
import TestBench.Proofs.Run.Capture
import TestBench.Proofs.Run.Verdict
import TestBench.Proofs.Settings.Limit

namespace TestBench

/-- The limit of the command line goes before that of the settings. -/
theorem Cli.Bench.limit_of_setUp {around : Surroundings} {color : Bool} {common : Common} {bench : Bench}
    {events : List Log.Event} (h : setUp around color common = (.ok bench, events)) :
    bench.runner.limit = common.timeout.or bench.preferences.timeout := by
  obtain ⟨base, pattern, preferences, -, rfl⟩ := exists_ready_of_setUp (congrArg Prod.fst h)
  rfl

namespace Run

/-- A binary is stopped by the limit that is set for it. -/
theorem Course.limit_of_expired {limit : Option Duration} {course : Course limit} {d : Duration}
    (hexpired : course.outcome.expired = some d) : limit = some d :=
  ((Watch.expired_start_run_iff limit course.occurrences (Option.some_get course.finishes).symm d).1 hexpired).1

namespace Outcome

variable {outcome outcome' : Outcome} {d d' : Duration}

theorem endRemarks_of_expired (hexpired : outcome.expired = some d) (hended : ¬outcome.EndedWell) :
    outcome.endRemarks = [Verdict.expiryRemark d] := by
  rw [endRemarks, hexpired]
  split
  · next exit limit hwait heq =>
    have hsuccess : ¬ exit.isSuccess = true := fun hsuccess => hended ⟨exit, hwait, hsuccess⟩
    cases heq
    rw [if_neg hsuccess]
  · next heq => cases heq
  · next heq =>
    cases heq
    rfl
  · next heq => cases heq

/-- **The diagnostic begins with the limit that ran out.**  Behind it stands what is wrong with standard output, if
anything is. -/
theorem diagnostic_of_expired (hexpired : outcome.expired = some d) (hended : ¬outcome.EndedWell) (path : Text) :
    ∃ rest, (outcome.judge path).1.diagnostic = some ("timed out after ".toList ++ d.write ++ rest) ∧
      (Utf8.IsText outcome.stdout → rest = []) ∧
      (¬Utf8.IsText outcome.stdout →
        ∃ length, rest = "; ".toList ++ ({ validUpTo := length } : Protocol.DecodeError).message) := by
  by_cases htext : Utf8.IsText outcome.stdout
  · obtain ⟨text, hencode⟩ := htext
    refine ⟨[], ?_, fun _ => rfl, fun h => absurd ⟨text, hencode⟩ h⟩
    rw [judge_of_text hencode, endRemarks_of_expired hexpired hended, List.append_nil]
    rfl
  · obtain ⟨length, -, hjudge⟩ := judge_of_not_isText htext path
    refine ⟨_, ?_, fun h => absurd h htext, fun _ => ⟨length, rfl⟩⟩
    rw [hjudge, endRemarks_of_expired hexpired hended, ← List.append_assoc]
    rfl

theorem semicolon_notMem_expiryRemark (d : Duration) : ';' ∉ Verdict.expiryRemark d := by
  intro h
  rcases List.mem_append.1 h with h | h
  · revert h
    decide
  · rcases Duration.plain_of_mem_write h with h | h | h
    · revert h
      decide
    · revert h
      decide
    · revert h
      decide

/-- The limit is what stands before the first semicolon. -/
theorem takeWhile_diagnostic (hexpired : outcome.expired = some d) (hended : ¬outcome.EndedWell) (path : Text) :
    (outcome.judge path).1.diagnostic.map (·.takeWhile (· != ';')) = some (Verdict.expiryRemark d) := by
  obtain ⟨rest, hdiagnostic, htext, hnotText⟩ := diagnostic_of_expired hexpired hended path
  rw [hdiagnostic, Option.map_some]
  refine congrArg some (takeWhile_ne_eq_iff.2 ⟨semicolon_notMem_expiryRemark d, ?_⟩)
  by_cases h : Utf8.IsText outcome.stdout
  · rw [htext h, List.append_nil]
    exact .inl rfl
  · obtain ⟨length, rfl⟩ := hnotText h
    exact .inr ⟨_, rfl⟩

/-- **Different limits have different diagnostics.** -/
theorem limit_eq_of_diagnostic_eq (hd : d.IsValid) (hd' : d'.IsValid) (hexpired : outcome.expired = some d)
    (hended : ¬outcome.EndedWell) (hexpired' : outcome'.expired = some d') (hended' : ¬outcome'.EndedWell)
    {path path' : Text} (h : (outcome.judge path).1.diagnostic = (outcome'.judge path').1.diagnostic) : d = d' := by
  have hremark : Verdict.expiryRemark d = Verdict.expiryRemark d' := by
    have htake := takeWhile_diagnostic hexpired hended path
    rw [h, takeWhile_diagnostic hexpired' hended' path'] at htake
    exact (Option.some.inj htake).symm
  have hwrite : d.write = d'.write := List.append_cancel_left hremark
  have hread := Duration.ofText?_write hd
  rw [hwrite, Duration.ofText?_write hd'] at hread
  exact (Option.some.inj hread).symm

end Outcome

open Cli Settings in
/-- **The limit that a diagnostic names reads back.**  It is the limit that was set.  Its text describes it, and sets it
wherever a limit can be set, on the command line and in a file: what was understood without a limit, or loaded, is
understood, or loads, with this one, and is the same otherwise.  Another limit is never named the same. -/
theorem namedLimit_readsBack {d : Duration} (hd : d.IsValid) :
    -- The limit that is named is the one that is set, on the command line or else in the settings.
    (∀ (around : Surroundings) (color : Bool) (common : Common) (bench : Bench) (events : List Log.Event),
      Bench.setUp around color common = (.ok bench, events) →
      bench.runner.limit = common.timeout.or bench.preferences.timeout) ∧
    (∀ (limit : Option Duration) (course : Course limit), course.outcome.expired = some d → limit = some d) ∧
    (∀ (outcome : Outcome) (path : Text), outcome.expired = some d → ¬outcome.EndedWell →
      ∃ rest, (outcome.judge path).1.diagnostic = some ("timed out after ".toList ++ d.write ++ rest) ∧
        (Utf8.IsText outcome.stdout → rest = []) ∧
        (¬Utf8.IsText outcome.stdout →
          ∃ length, rest = "; ".toList ++ ({ validUpTo := length } : Protocol.DecodeError).message)) ∧
    Duration.ofText? d.write = some d ∧
    -- Its text sets it on every command line that has none.
    (∀ (cpus : Nat) (env : Program.Block) (arguments : List Text) (invocation : Invocation),
      Invocation.ofArguments cpus env arguments = .ok invocation → invocation.command.common.timeout = none →
      ∃ before behind, arguments = before ++ behind ∧ EndsOptions behind ∧
        ∀ option, GivesLimit d.write option →
          Invocation.ofArguments cpus env (before ++ option ++ behind) = .ok (invocation.withLimit d)) ∧
    -- Its text sets it in every file that loads, and in one that holds nothing else.
    (∀ (cpus : Nat) (tree : FileTree) (here : Location) (base name path : Text) (file : Option Text),
      Source.choose? tree here base file = some name → Source.find? tree here name = some path →
      tree.read [] (Utf8.encode path) = .ok (Utf8.encode (Toml.limitText d.write)) →
      Settings.load cpus tree here base file
        = (.ok { Preferences.byDefault with timeout := some d }, Source.events (some name) [])) ∧
    (∀ (cpus : Nat) (tree tree' : FileTree) (here : Location) (base : Text) (file : Option Text)
        (source source' : Fields) (preferences : Preferences) (events : List Log.Event),
      Source.readChosen tree here (Source.choose? tree here base file) = .ok source →
      Settings.load cpus tree here base file = (.ok preferences, events) →
      Source.choose? tree' here base file = Source.choose? tree here base file →
      Source.readChosen tree' here (Source.choose? tree' here base file) = .ok source' →
      Preferences.SetsLimit d.write source source' →
      Settings.load cpus tree' here base file = (.ok { preferences with timeout := some d }, events)) ∧
    -- Another limit has another diagnostic.
    (∀ (d' : Duration) (outcome outcome' : Outcome) (path path' : Text), d'.IsValid →
      outcome.expired = some d → ¬outcome.EndedWell → outcome'.expired = some d' → ¬outcome'.EndedWell →
      (outcome.judge path).1.diagnostic = (outcome'.judge path').1.diagnostic → d = d') := by
  refine ⟨fun _ _ _ _ _ => Bench.limit_of_setUp, fun _ _ => Course.limit_of_expired,
    fun _ path hexpired hended => Outcome.diagnostic_of_expired hexpired hended path, Duration.ofText?_write hd, ?_,
    fun _ _ _ _ _ _ _ => Preferences.load_limitText hd, ?_, ?_⟩
  · intro cpus env arguments invocation h hnone
    obtain ⟨before, behind, harguments, hbehind, hlimit⟩ := Invocation.ofArguments_limit h hnone
    exact ⟨before, behind, harguments, hbehind, fun option hoption => hlimit hd hoption⟩
  · intro cpus tree tree' here base file source source' preferences events hread hload hchoose hread' hsets
    exact Preferences.load_limit hread hload hchoose hread' hsets (Duration.ofText?_write hd)
  · intro d' outcome outcome' path path' hd' hexpired hended hexpired' hended' h
    exact Outcome.limit_eq_of_diagnostic_eq hd hd' hexpired hended hexpired' hended' h

/-! ### The greatest limit -/

/-- No limit is greater. -/
def greatestLimit : Duration := { seconds := 0xFFFFFFFFFFFFFFFF, nanoseconds := 999999999 }

/-- Its text. -/
def greatestLimitText : Text := "584542046090years 7months 15days 17h 5m 3s 999ms 999us 999ns".toList

theorem write_greatestLimit : greatestLimit.write = greatestLimitText := by
  decide +kernel

/-- A binary that was killed at the limit. -/
def stoppedAtLimit : Outcome :=
  { wait := .ok (.ofSignal 9), stdout := [], stderr := [], expired := some greatestLimit }

/-- A file that sets the limit. -/
def greatestLimitFile : String :=
  "[run]\ntimeout = \"584542046090years 7months 15days 17h 5m 3s 999ms 999us 999ns\"\n"

theorem find?_directoryOf (content : String) :
    Settings.Source.find? (Settings.directoryOf content) [] Settings.tomlName = some "/c.toml".toList := by
  unfold Settings.directoryOf
  generalize Utf8.encode content.toList = bytes
  cbv

theorem read_directoryOf (content : String) :
    (Settings.directoryOf content).read [] (Utf8.encode "/c.toml".toList) = .ok (Utf8.encode content.toList) := by
  unfold Settings.directoryOf
  generalize Utf8.encode content.toList = bytes
  cbv

/-- The command line `run`. -/
def plainRun : Cli.Invocation :=
  { color := .auto, command := .run (.ofGiven .empty) }

open Cli Settings in
/-- The greatest limit reads back. -/
theorem namedLimit_readsBack_greatestLimit :
    greatestLimit.IsValid ∧
      (stoppedAtLimit.judge "a".toList).1.diagnostic = some ("timed out after ".toList ++ greatestLimitText) ∧
      Invocation.ofArguments 4 .empty ["run".toList, "--timeout".toList, greatestLimitText]
        = .ok (plainRun.withLimit greatestLimit) ∧
      Settings.load 4 (directoryOf greatestLimitFile) [] ".".toList (some tomlName)
        = (.ok { Preferences.byDefault with timeout := some greatestLimit }, Source.events (some tomlName) []) := by
  have hvalid : greatestLimit.IsValid := by decide
  obtain ⟨-, -, hnames, -, hline, hfile, -⟩ := namedLimit_readsBack hvalid
  rw [write_greatestLimit] at hnames hline hfile
  refine ⟨hvalid, ?_, ?_, ?_⟩
  · have hended : ¬stoppedAtLimit.EndedWell := by
      rintro ⟨exit, hwait, hsuccess⟩
      cases hwait
      revert hsuccess
      decide
    obtain ⟨rest, hdiagnostic, htext, -⟩ := hnames stoppedAtLimit "a".toList rfl hended
    rw [hdiagnostic, htext ⟨[], rfl⟩, List.append_nil]
  · obtain ⟨before, behind, harguments, hbehind, hlimit⟩ :=
      hline 4 .empty ["run".toList] plainRun (by rfl) rfl
    rcases hbehind with rfl | rfl
    · obtain rfl : ["run".toList] = before := harguments.trans (List.append_nil _)
      have hgiven := hlimit _ .apart
      rw [List.append_nil, List.singleton_append] at hgiven
      exact hgiven
    · have hlast := congrArg List.getLast? harguments
      rw [List.getLast?_concat] at hlast
      exact absurd hlast (by decide)
  · have htext : greatestLimitFile.toList = Toml.limitText greatestLimitText := by decide +kernel
    have hcontent := read_directoryOf greatestLimitFile
    rw [htext] at hcontent
    exact hfile 4 _ [] ".".toList tomlName _ (some tomlName) rfl (find?_directoryOf _) hcontent

end Run
end TestBench
