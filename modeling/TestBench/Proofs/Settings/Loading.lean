/-
# Loading settings key by key

What comes of a file that loads, whatever it says and whatever else it says:

| part | stated of |
| --- | --- |
| a setting with an entry in the file is the converted entry, any other the default | every file |
| a default variable that the file does not set, in whatever case, keeps its value | files that give the section on sanitizers and its environment as tables |
| entries that no setting reads change no setting, and are at most named in the one warning | additions as `ExtendsUnread` has them |

The two conditions are needed (`not_load_keyByKey`).  A list in the place of the section on sanitizers takes
the default variables with it.  Where a path such as `sanitizers[0]` gives the section as a list, a table for
it replaces the list; and where both `run.timeout` and the table `run` give the limit, the later one holds,
so that an addition which moves the one before the other changes the limit.
-/

import Mathlib
import TestBench.Proofs.Settings.Own
import TestBench.Proofs.Settings.Unread
import TestBench.Settings.Source

namespace TestBench
namespace Settings

/-- What is logged when settings are loaded of which some keys mean nothing. -/
def Source.events (file : Option Text) (unknown : List Text) : List Log.Event :=
  file.toList.map Source.readingEvent ++ if unknown = [] then [] else [Source.unknownEvent file unknown]

section Loading

open Preferences

variable {cpus : Nat} {tree : FileTree} {here : Location} {base : Text} {file : Option Text}
  {source : Fields} {preferences : Preferences} {events : List Log.Event}

/-- A file that is read loads if its settings do. -/
theorem load_eq_ok_iff (hread : Source.readChosen tree here (Source.choose? tree here base file) = .ok source) :
    load cpus tree here base file = (.ok preferences, events) ↔
      ∃ unknown, ofSource cpus source = .ok (preferences, unknown) ∧
        events = Source.events (Source.choose? tree here base file) unknown := by
  simp only [load, hread]
  cases ofSource cpus source with
  | error err => exact ⟨nofun, fun ⟨_, h, _⟩ => nomatch h⟩
  | ok outcome =>
    obtain ⟨found, unknown⟩ := outcome
    constructor
    · intro h
      obtain ⟨hfound, hevents⟩ := Prod.mk.inj h
      cases hfound
      exact ⟨unknown, rfl, hevents.symm⟩
    · rintro ⟨_, h, rfl⟩
      cases h
      rfl

/-- **Settings are loaded key by key, and blind to unknown keys.** -/
theorem load_keyByKey
    (hread : Source.readChosen tree here (Source.choose? tree here base file) = .ok source)
    (h : load cpus tree here base file = (.ok preferences, events)) :
    preferences.FollowsOwn cpus source.own ∧
      (SparesDefaultVariables source → ∀ variable_ ∈ defaultEnvironment,
        (∀ entry ∈ definedVariables source.own, Text.upperAscii entry.1 ≠ variable_.1) →
          preferences.environment.get? variable_.1 = some variable_.2) ∧
      ∃ unknown, events = Source.events (Source.choose? tree here base file) unknown ∧
        ∀ (tree' : FileTree) (source' : Fields),
          Source.choose? tree' here base file = Source.choose? tree here base file →
          Source.readChosen tree' here (Source.choose? tree' here base file) = .ok source' →
          ExtendsUnread source source' →
          ∃ unknown', (∀ key ∈ unknown, key ∈ unknown') ∧
            load cpus tree' here base file
              = (.ok preferences, Source.events (Source.choose? tree here base file) unknown') := by
  obtain ⟨unknown, hsource, hevents⟩ := (load_eq_ok_iff hread).1 h
  refine ⟨ofSource_followsOwn hsource, fun hspares variable_ hdefault hfree =>
    ofSource_keepsVariable hsource hspares hdefault hfree, unknown, hevents, ?_⟩
  intro tree' source' hchoose hread' hextends
  obtain ⟨unknown', hsource', hsubset⟩ := ofSource_extends hsource hextends
  exact ⟨unknown', hsubset, (load_eq_ok_iff hread').2 ⟨unknown', hsource', by rw [hchoose]⟩⟩

/-! ### A file, and the file with more keys -/

/-- The name of a file. -/
def tomlName : Text := "c.toml".toList

/-- A directory with a file of this name. -/
def directoryOf (content : String) : FileTree :=
  FileTree.empty.set [Utf8.encode tomlName] (.file (.bytes (Utf8.encode content.toList)) 0o644)

/-- A file with a limit, given by a path, and a variable. -/
def limitFile : String := "\"run.timeout\" = \"5s\"\n[sanitizers.env]\nasan_options = \"\"\n"

/-- The same file with keys that mean nothing, at the top and in both sections. -/
def widerFile : String :=
  "jobs = 2\n\"run.timeout\" = \"5s\"\n[run]\nretries = 1\n[sanitizers.env]\nasan_options = \"\"\n"
    ++ "[sanitizers.log]\n"

/-- A value from the file. -/
def fromFile (value : Plain) : Value := .plain (some tomlName) value

/-- The entry of both files for the limit. -/
def limitEntry : Text × Value := ("run.timeout".toList, fromFile (.string "5s".toList))

/-- The entry of both files for the variables. -/
def variablesEntry : Text × Value :=
  (environmentKey, .table (some tomlName) [("asan_options".toList, fromFile (.string []))])

/-- What the first file says. -/
def limitSource : Fields := [limitEntry, (sanitizersKey, .table (some tomlName) [variablesEntry])]

/-- What the second file says. -/
def widerSource : Fields :=
  [("jobs".toList, fromFile (.integer 2)), limitEntry,
    (runKey, .table (some tomlName) [("retries".toList, fromFile (.integer 1))]),
    (sanitizersKey, .table (some tomlName) [variablesEntry, ("log".toList, .table (some tomlName) [])])]

/-- The preferences that both files give. -/
def limitPreferences : Preferences :=
  { threads := .processors, timeout := some { seconds := 5, nanoseconds := 0 }, failOnError := false
    variantsDir := none, buildCommand := none
    environment := .ofPairs [("ASAN_OPTIONS".toList, []),
      ("UBSAN_OPTIONS".toList, "color=always:print_stacktrace=1".toList)] }

theorem readChosen_limitFile :
    Source.readChosen (directoryOf limitFile) [] (some tomlName) = .ok limitSource := by
  cbv

theorem readChosen_widerFile :
    Source.readChosen (directoryOf widerFile) [] (some tomlName) = .ok widerSource := by
  cbv

theorem ofSource_limitSource : ofSource 4 limitSource = .ok (limitPreferences, []) := by
  cbv

theorem definedVariables_limitSource :
    definedVariables limitSource.own = [("asan_options".toList, fromFile (.string []))] := by
  cbv

theorem sparesDefaultVariables_limitSource : SparesDefaultVariables limitSource := by
  have hentries : limitSource.entriesOf sanitizersKey
      = [(sanitizersKey, .table (some tomlName) [variablesEntry])] := by rfl
  refine sparesDefaultVariables_of_table hentries fun value hvalue => ?_
  cases List.mem_singleton.1 hvalue
  exact ⟨_, _, rfl⟩

/-- **The second file has more of what is not read**: a key at the top, a table for a section that is given by a path,
and a key in the table of a section. -/
theorem extendsUnread_widerSource : ExtendsUnread limitSource widerSource := by
  let jobs : Text × Value := ("jobs".toList, fromFile (.integer 2))
  let retries : Text × Value := ("retries".toList, fromFile (.integer 1))
  let log : Text × Value := ("log".toList, .table (some tomlName) [])
  let behind : Fields := [(sanitizersKey, .table (some tomlName) [variablesEntry])]
  have hplain : ∀ c ∈ "jobs".toList, KeyPath.isNameChar c = true := List.all_eq_true.1 rfl
  have hjobs : ExtendsUnread ([] ++ limitSource) ([] ++ jobs :: limitSource) :=
    extendsUnread_of_isNameChar (by decide) hplain (by decide) _
  have honly : ∀ entry ∈ Fields.entriesOf ([jobs, limitEntry] ++ behind) runKey, GivesTable entry := by
    have hentries : Fields.entriesOf ([jobs, limitEntry] ++ behind) runKey = [limitEntry] := by cbv
    rw [hentries, List.forall_mem_singleton]
    trivial
  have hretries : ExtendsUnread ([jobs, limitEntry] ++ behind)
      ([jobs, limitEntry] ++ (runKey, .table (some tomlName) [retries]) :: behind) :=
    extendsUnread_of_unread (by decide) honly (by decide)
  have hwidens : Fields.Widens (settingKeys sanitizersKey) [variablesEntry] [variablesEntry, log] :=
    ⟨by cbv, by decide⟩
  have hlog : ExtendsUnread
      ([jobs, limitEntry, (runKey, .table (some tomlName) [retries])]
        ++ [(sanitizersKey, .table (some tomlName) [variablesEntry])])
      ([jobs, limitEntry, (runKey, .table (some tomlName) [retries])]
        ++ [(sanitizersKey, .table (some tomlName) [variablesEntry, log])]) :=
    extendsUnread_of_widens (by decide) hwidens
  exact (hjobs.trans hretries).trans hlog

/-- The first file loads, and so does the second, to the same preferences; the default variable that neither of them
sets keeps its value. -/
theorem load_keyByKey_limitFile :
    Source.readChosen (directoryOf limitFile) [] (some tomlName) = .ok limitSource ∧
      load 4 (directoryOf limitFile) [] ".".toList (some tomlName)
        = (.ok limitPreferences, Source.events (some tomlName) []) ∧
      limitPreferences.FollowsOwn 4 limitSource.own ∧
      limitPreferences.environment.get? "UBSAN_OPTIONS".toList
        = some "color=always:print_stacktrace=1".toList ∧
      ∃ unknown, load 4 (directoryOf widerFile) [] ".".toList (some tomlName)
        = (.ok limitPreferences, Source.events (some tomlName) unknown) := by
  have hread : Source.readChosen (directoryOf limitFile) []
      (Source.choose? (directoryOf limitFile) [] ".".toList (some tomlName)) = .ok limitSource :=
    readChosen_limitFile
  have hload : load 4 (directoryOf limitFile) [] ".".toList (some tomlName)
      = (.ok limitPreferences, Source.events (some tomlName) []) :=
    (load_eq_ok_iff hread).2 ⟨[], ofSource_limitSource, rfl⟩
  obtain ⟨hfollows, hkeeps, _, -, hextends⟩ := load_keyByKey hread hload
  refine ⟨readChosen_limitFile, hload, hfollows, ?_, ?_⟩
  · refine hkeeps sparesDefaultVariables_limitSource _ (List.mem_cons_of_mem _ List.mem_cons_self) ?_
    rw [definedVariables_limitSource, List.forall_mem_singleton]
    decide
  · have hchoose : Source.choose? (directoryOf widerFile) [] ".".toList (some tomlName)
        = Source.choose? (directoryOf limitFile) [] ".".toList (some tomlName) := by
      simp only [Source.choose?]
    obtain ⟨unknown, -, hwider⟩ :=
      hextends (directoryOf widerFile) widerSource hchoose readChosen_widerFile extendsUnread_widerSource
    exact ⟨unknown, hwider⟩

/-! ### Files that are not layered key by key -/

/-- The preferences of a file on a machine with four processors. -/
def loaded? (content : String) : Option Preferences :=
  (load 4 (directoryOf content) [] ".".toList (some tomlName)).1.toOption

/-- A file whose section on sanitizers is a list. -/
def listFile : String := "sanitizers = []\n"

/-- What this file says. -/
def listSource : Fields := [(sanitizersKey, .list (some tomlName) [])]

theorem readChosen_listFile :
    Source.readChosen (directoryOf listFile) [] (some tomlName) = .ok listSource := by
  cbv

theorem ofSource_listSource :
    ofSource 4 listSource
      = .ok ({ threads := .processors, timeout := none, failOnError := false, variantsDir := none
               buildCommand := none, environment := .empty }, []) := by
  cbv

/-- A table of the section, added to a path that makes the section a list. -/
theorem loaded?_pathThenTable :
    (loaded? "\"sanitizers[0]\" = \"san\"\n").map (·.variantsDir) = some (some "san".toList) ∧
      (loaded? "\"sanitizers[0]\" = \"san\"\n[sanitizers]\nlog = 1\n").map (·.variantsDir) = some none := by
  constructor
  · cbv
  · cbv

/-- A key that puts the table of a section before a path into it. -/
theorem loaded?_tableThenPath :
    (loaded? "\"run.timeout\" = \"5s\"\nrun.timeout = \"6s\"\n").map (·.timeout)
        = some (some { seconds := 6, nanoseconds := 0 }) ∧
      (loaded? "run.log = 1\n\"run.timeout\" = \"5s\"\nrun.timeout = \"6s\"\n").map (·.timeout)
        = some (some { seconds := 5, nanoseconds := 0 }) := by
  constructor
  · cbv
  · cbv

/-- **Layering is not key by key where a section is no table.**  A list in the place of the section on
sanitizers takes the default variables with it; a table that is added to such a list replaces it; and of two
entries for one setting the later one holds, so that an addition which moves them apart changes it. -/
theorem not_load_keyByKey :
    (¬ ∀ (content : String) (source : Fields) (preferences : Preferences) (events : List Log.Event),
        Source.readChosen (directoryOf content) [] (some tomlName) = .ok source →
        load 4 (directoryOf content) [] ".".toList (some tomlName) = (.ok preferences, events) →
        ∀ variable_ ∈ defaultEnvironment,
          (∀ entry ∈ definedVariables source.own, Text.upperAscii entry.1 ≠ variable_.1) →
            preferences.environment.get? variable_.1 = some variable_.2) ∧
      ((loaded? "\"sanitizers[0]\" = \"san\"\n").map (·.variantsDir) = some (some "san".toList) ∧
        (loaded? "\"sanitizers[0]\" = \"san\"\n[sanitizers]\nlog = 1\n").map (·.variantsDir) = some none) ∧
      (loaded? "\"run.timeout\" = \"5s\"\nrun.timeout = \"6s\"\n").map (·.timeout)
          = some (some { seconds := 6, nanoseconds := 0 }) ∧
        (loaded? "run.log = 1\n\"run.timeout\" = \"5s\"\nrun.timeout = \"6s\"\n").map (·.timeout)
          = some (some { seconds := 5, nanoseconds := 0 }) := by
  refine ⟨fun h => ?_, loaded?_pathThenTable, loaded?_tableThenPath⟩
  have hread : Source.readChosen (directoryOf listFile) []
      (Source.choose? (directoryOf listFile) [] ".".toList (some tomlName)) = .ok listSource :=
    readChosen_listFile
  have hload := (load_eq_ok_iff hread).2 ⟨[], ofSource_listSource, rfl⟩
  exact nomatch h listFile listSource _ _ readChosen_listFile hload _ List.mem_cons_self nofun

end Loading
end Settings
end TestBench
