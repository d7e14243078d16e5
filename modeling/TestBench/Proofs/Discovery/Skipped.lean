/-
# Files whose paths are not text

A test binary is returned under a path that is text.  What becomes of one that the walk reaches at another
path depends on where the malformed bytes are.

| the file's name | its path | what becomes of the file |
| --- | --- | --- |
| text | text | it is returned |
| text | not text | it is skipped with a warning |
| not text | any | nothing, whether its bytes match the pattern or not |

So a file that the pattern matches is accounted for iff its name is text (`discover_accounts`); a name that
is not text is enough for a test binary to be missed without a word (`not_discover_accounts`).
-/

import TestBench.Proofs.Discovery.Exact

namespace TestBench
namespace Discovery

open FileTree

variable {tree : FileTree} {here location : Location} {pattern : Glob.NamePattern} {root : Text}
  {path name : Bytes}

/-- A walk from `root` reaches a regular file called `name` at `path`, which may be executed. -/
structure Reaches (tree : FileTree) (here : Location) (root : Text) (path name : Bytes) : Prop where
  below : ∃ before, (∀ n ∈ before ++ [name], IsName n) ∧
    path = pathTo (Utf8.encode root) (before ++ [name]) ∧ tree.Passable here (Utf8.encode root) before
  executable : ∃ location content mode, tree.resolve here path = .ok location ∧
    tree.entry? location = some (.file content mode) ∧ isExecutableMode mode = true

/-- The search returns `path`. -/
def Returns (tree : FileTree) (here : Location) (pattern : Glob.NamePattern) (root : Text)
    (path : Bytes) : Prop :=
  ∃ paths text, (discover tree here pattern root).1 = .ok paths ∧ text ∈ paths ∧ Utf8.encode text = path

/-- The event is a warning of a path that is not text. -/
def saysNotText (event : Log.Event) : Bool :=
  "skipping non-UTF-8 path ".toList.isPrefixOf event.message

/-- The path of a finding that is skipped for its path. -/
def skippedPath? (pattern : Glob.NamePattern) : Finding → Option Bytes
  | .file path name => if nameMatches pattern name && (Utf8.toText? path).isNone then some path else none
  | .fault _ _ | .loop _ _ => none

theorem isNone_toText?_iff {bytes : Bytes} :
    (Utf8.toText? bytes).isNone = true ↔ ¬Utf8.IsText bytes := by
  rw [Option.isNone_iff_eq_none, Option.eq_none_iff_forall_ne_some, Utf8.IsText, not_exists]
  exact forall_congr' fun text => not_congr Utf8.toText?_eq_some_iff

theorem skippedPath?_eq_some_iff {finding : Finding} :
    skippedPath? pattern finding = some path ↔
      ∃ name, finding = .file path name ∧ nameMatches pattern name = true ∧ ¬Utf8.IsText path := by
  cases finding with
  | file shown name =>
    simp only [skippedPath?, Option.ite_none_right_eq_some, Bool.and_eq_true, isNone_toText?_iff,
      Option.some.injEq, Finding.file.injEq]
    constructor
    · rintro ⟨⟨hmatch, hnot⟩, rfl⟩
      exact ⟨name, ⟨rfl, rfl⟩, hmatch, hnot⟩
    · rintro ⟨name, ⟨rfl, rfl⟩, hmatch, hnot⟩
      exact ⟨⟨hmatch, hnot⟩, rfl⟩
  | fault shown err => simp [skippedPath?]
  | loop shown ancestor => simp [skippedPath?]

/-- **The warning of a finding** is for its path, if it is skipped for that. -/
theorem filter_judge (tree : FileTree) (here : Location) (pattern : Glob.NamePattern)
    (finding : Finding) :
    (judge tree here pattern finding).2.filter saysNotText
      = (skippedPath? pattern finding).toList.map notTextEvent := by
  cases finding with
  | file shown name =>
    rw [judge, skippedPath?]
    by_cases hmatch : nameMatches pattern name = true
    · rw [if_pos hmatch, hmatch, Bool.true_and]
      cases Utf8.toText? shown with
      | none => rfl
      | some text => rfl
    · rw [if_neg hmatch, if_neg (by simp [hmatch])]
      rfl
  | fault shown err => rfl
  | loop shown ancestor => rfl

/-- What is skipped of the findings of a walk. -/
def skippedPaths (tree : FileTree) (here : Location) (pattern : Glob.NamePattern) (root : Text) :
    List Bytes :=
  match tree.walk here (Utf8.encode root) with
  | .ok findings => findings.filterMap (skippedPath? pattern)
  | .error _ => []

theorem filter_discover (tree : FileTree) (here : Location) (pattern : Glob.NamePattern) (root : Text) :
    (discover tree here pattern root).2.filter saysNotText
      = (skippedPaths tree here pattern root).map notTextEvent := by
  rw [discover, skippedPaths]
  split
  next hwalk =>
    rw [hwalk]
    rfl
  next hwalk =>
    rw [hwalk]
    rfl
  next findings hwalk =>
    rw [hwalk]
    dsimp only
    rw [List.flatMap_map, List.filter_flatMap, List.filterMap_eq_flatMap_toList, List.map_flatMap]
    simp only [filter_judge]

/-- A skipped path is the path of a file that the walk came across. -/
theorem mem_skippedPaths_iff :
    path ∈ skippedPaths tree here pattern root ↔
      ∃ findings name, tree.walk here (Utf8.encode root) = .ok findings ∧
        .file path name ∈ findings ∧ nameMatches pattern name = true ∧ ¬Utf8.IsText path := by
  rw [skippedPaths]
  cases tree.walk here (Utf8.encode root) with
  | error err => simp
  | ok findings =>
    simp only [List.mem_filterMap, skippedPath?_eq_some_iff, Except.ok.injEq]
    constructor
    · rintro ⟨finding, hmem, name, rfl, hmatch, hnot⟩
      exact ⟨findings, name, rfl, hmem, hmatch, hnot⟩
    · rintro ⟨findings, name, rfl, hmem, hmatch, hnot⟩
      exact ⟨_, hmem, name, rfl, hmatch, hnot⟩

theorem nodup_skippedPaths (htree : tree.WellFormed) (here : Location) (pattern : Glob.NamePattern)
    (root : Text) : (skippedPaths tree here pattern root).Nodup := by
  rw [skippedPaths]
  cases hwalk : tree.walk here (Utf8.encode root) with
  | error err => exact List.nodup_nil
  | ok findings =>
    cases hlist : tree.list here (Utf8.encode root) with
    | error err =>
      rw [walk_eq_error_iff.2 hlist] at hwalk
      simp at hwalk
    | ok names =>
      obtain ⟨location, hopens, -⟩ := list_eq_ok_iff.1 hlist
      obtain rfl := Except.ok.inj ((walk_of_opens hopens).symm.trans hwalk)
      refine nodup_filterMap_walkNames id (fun finding path hpath => ?_) htree here _ location _
      obtain ⟨name, rfl, -⟩ := skippedPath?_eq_some_iff.1 hpath
      rfl

/-! ### Files that are reached -/

theorem Reaches.exists_opens (h : Reaches tree here root path name) :
    ∃ location, tree.Opens here (Utf8.encode root) location := by
  obtain ⟨before, -, -, hpassable⟩ := h.below
  exact hpassable.opens [] (List.nil_prefix)

/-- **What is reached is found.** -/
theorem Reaches.mem_walkNames (h : Reaches tree here root path name)
    (hopens : tree.Opens here (Utf8.encode root) location) :
    .file path name ∈ tree.walkNames here [(location, Utf8.encode root)] location (Utf8.encode root)
      (tree.names location) := by
  obtain ⟨before, hnames, rfl, hpassable⟩ := h.below
  exact (Inside.start hopens).mem_walkNames hnames hpassable (isExecutable_iff.2 h.executable)

/-- At the path of a file that is reached no other name is found. -/
theorem Reaches.eq_of_mem_walkNames (h : Reaches tree here root path name) (htree : tree.WellFormed)
    (hopens : tree.Opens here (Utf8.encode root) location) {found : Bytes}
    (hfound : .file path found ∈ tree.walkNames here [(location, Utf8.encode root)] location
      (Utf8.encode root) (tree.names location)) : found = name := by
  obtain ⟨before, hnames, hpath, -⟩ := h.below
  rw [walkNames_eq_flatMap, List.mem_flatMap] at hfound
  obtain ⟨first, hfirst, hunder⟩ := hfound
  obtain ⟨before', hnames', -, hpath'⟩ := (Inside.start hopens).exists_passable htree hfirst hunder
  have hsame := pathTo_injective hnames' hnames (hpath'.symm.trans hpath)
  exact List.singleton_inj.1 (List.append_inj' hsame rfl).2

/-- The search returns a file that it reaches iff its name is text that matches and its path is text. -/
theorem Reaches.returns_iff (h : Reaches tree here root path name) (htree : tree.WellFormed) :
    Returns tree here pattern root path ↔ nameMatches pattern name = true ∧ Utf8.IsText path := by
  obtain ⟨location, hopens⟩ := h.exists_opens
  have hfound := h.mem_walkNames hopens
  constructor
  · rintro ⟨paths, text, hpaths, hmem, rfl⟩
    rw [discover_of_opens hopens] at hpaths
    obtain rfl := Except.ok.inj hpaths
    obtain ⟨finding, hfinding, hjudge⟩ := List.mem_filterMap.1 hmem
    obtain ⟨found, rfl, hmatch, -⟩ := judge_eq_some_iff.1 hjudge
    rw [h.eq_of_mem_walkNames htree hopens hfinding] at hmatch
    exact ⟨hmatch, text, rfl⟩
  · rintro ⟨hmatch, text, rfl⟩
    exact ⟨_, text, discover_of_opens hopens, List.mem_filterMap.2 ⟨_, hfound, judge_eq_some_iff.2
      ⟨name, rfl, hmatch, isExecutable_iff.2 h.executable⟩⟩, rfl⟩

/-- The search skips a file that it reaches with a warning iff its name is text that matches and its path
is not text. -/
theorem Reaches.mem_skippedPaths_iff (h : Reaches tree here root path name) (htree : tree.WellFormed) :
    path ∈ skippedPaths tree here pattern root ↔
      nameMatches pattern name = true ∧ ¬Utf8.IsText path := by
  obtain ⟨location, hopens⟩ := h.exists_opens
  rw [Discovery.mem_skippedPaths_iff, walk_of_opens hopens]
  constructor
  · rintro ⟨findings, found, hwalk, hmem, hmatch, hnot⟩
    obtain rfl := Except.ok.inj hwalk
    rw [h.eq_of_mem_walkNames htree hopens hmem] at hmatch
    exact ⟨hmatch, hnot⟩
  · rintro ⟨hmatch, hnot⟩
    exact ⟨_, name, rfl, h.mem_walkNames hopens, hmatch, hnot⟩

/-- Of a name whose bytes match, the pattern is asked iff it is text. -/
theorem nameMatches_iff_isText (hmatch : pattern.pattern.isMatch name = true) :
    nameMatches pattern name = true ↔ Utf8.IsText name := by
  rw [nameMatches_iff]
  constructor
  · rintro ⟨text, htext, -⟩
    exact ⟨text, htext⟩
  · rintro ⟨text, rfl⟩
    exact ⟨text, rfl, hmatch⟩

/-- **Which files are accounted for.**  The search warns once of each path that it skips because the path
is not text.  A test binary that it reaches, and whose name matches by its bytes, is returned or skipped
so iff its name is text: it is returned if its path is text too, and skipped with a warning if not.  One
whose name is not text is neither. -/
theorem discover_accounts (htree : tree.WellFormed) (here : Location) (pattern : Glob.NamePattern)
    (root : Text) :
    ∃ skipped : List Bytes, skipped.Nodup ∧
      (discover tree here pattern root).2.filter saysNotText = skipped.map notTextEvent ∧
      (∀ path, path ∈ skipped ↔ ∃ findings name, tree.walk here (Utf8.encode root) = .ok findings ∧
        .file path name ∈ findings ∧ nameMatches pattern name = true ∧ ¬Utf8.IsText path) ∧
      ∀ path name, Reaches tree here root path name → pattern.pattern.isMatch name = true →
        (Returns tree here pattern root path ∨ path ∈ skipped ↔ Utf8.IsText name) ∧
        (Utf8.IsText name → Utf8.IsText path → Returns tree here pattern root path) ∧
        (Utf8.IsText name → ¬Utf8.IsText path → path ∈ skipped) := by
  refine ⟨skippedPaths tree here pattern root, nodup_skippedPaths htree here pattern root,
    filter_discover tree here pattern root, fun path => mem_skippedPaths_iff,
    fun path name hreaches hmatch => ?_⟩
  rw [hreaches.returns_iff htree, hreaches.mem_skippedPaths_iff htree, nameMatches_iff_isText hmatch]
  refine ⟨?_, fun hname hpath => ⟨hname, hpath⟩, fun hname hpath => ⟨hname, hpath⟩⟩
  rw [← and_or_left, and_iff_left (Classical.em _)]

/-- A build directory with a binary, another in a directory whose name is not text, and a third whose own
name is not text. -/
def foreign : FileTree :=
  { entries := [([Utf8.encode "build".toList], .directory),
      ([Utf8.encode "build".toList, Utf8.encode "a_tests".toList], .file (.bytes []) 0o755),
      ([Utf8.encode "build".toList, [0xFE]], .directory),
      ([Utf8.encode "build".toList, [0xFE], Utf8.encode "b_tests".toList], .file (.bytes []) 0o755),
      ([Utf8.encode "build".toList, 0xFF :: Utf8.encode "_tests".toList], .file (.bytes []) 0o755)] }

theorem wellFormed_foreign : foreign.WellFormed where
  nodup := by decide
  isName := by decide

/-- The path of the binary in the directory whose name is not text. -/
def warnedPath : Bytes := Utf8.encode "build/".toList ++ 0xFE :: Utf8.encode "/b_tests".toList

/-- The path of the binary whose own name is not text. -/
def silentPath : Bytes := Utf8.encode "build/".toList ++ 0xFF :: Utf8.encode "_tests".toList

theorem passable_build : foreign.Passable [] (Utf8.encode "build".toList) [] :=
  passable_nil_iff.2 ⟨[Utf8.encode "build".toList], rfl, rfl, rfl⟩

theorem reaches_warnedPath :
    Reaches foreign [] "build".toList warnedPath (Utf8.encode "b_tests".toList) where
  below := by
    refine ⟨[[0xFE]], by decide, rfl, ?_⟩
    rw [← List.nil_append [[0xFE]], passable_concat_iff]
    refine ⟨passable_build, ⟨_, rfl, rfl, rfl⟩, ?_⟩
    rintro ⟨⟨location, hresolve, destination, hlink⟩, -⟩
    obtain rfl : [Utf8.encode "build".toList] = location := Except.ok.inj hresolve
    have hdirectory : foreign.entry? ([Utf8.encode "build".toList] ++ [[0xFE]]) = some .directory := rfl
    exact absurd (hdirectory.symm.trans hlink) nofun
  executable := ⟨_, _, _, rfl, rfl, by decide⟩

theorem reaches_silentPath :
    Reaches foreign [] "build".toList silentPath (0xFF :: Utf8.encode "_tests".toList) where
  below := ⟨[], by decide, rfl, passable_build⟩
  executable := ⟨_, _, _, rfl, rfl, by decide⟩

theorem skippedPaths_foreign :
    skippedPaths foreign [] endsInTests "build".toList = [warnedPath] := by
  cbv

theorem isMatch_foreign :
    endsInTests.pattern.isMatch (Utf8.encode "b_tests".toList) = true ∧
      endsInTests.pattern.isMatch (0xFF :: Utf8.encode "_tests".toList) = true := by
  constructor <;> cbv

/-- Neither the name of the third binary nor the path of the second is text. -/
theorem not_isText_foreign : ¬Utf8.IsText (0xFF :: Utf8.encode "_tests".toList) ∧
    ¬Utf8.IsText warnedPath := by
  constructor <;> exact isNone_toText?_iff.1 (by decide +kernel)

/-- Of the three binaries the one in the directory is skipped with a warning; the one whose own name is
not text is neither returned nor skipped so. -/
theorem discover_accounts_foreign : foreign.WellFormed ∧
    Reaches foreign [] "build".toList warnedPath (Utf8.encode "b_tests".toList) ∧
    Reaches foreign [] "build".toList silentPath (0xFF :: Utf8.encode "_tests".toList) ∧
    ∃ skipped : List Bytes,
      (discover foreign [] endsInTests "build".toList).2.filter saysNotText = skipped.map notTextEvent ∧
      warnedPath ∈ skipped ∧ silentPath ∉ skipped ∧
      ¬Returns foreign [] endsInTests "build".toList silentPath := by
  obtain ⟨skipped, -, hevents, -, hfiles⟩ :=
    discover_accounts wellFormed_foreign [] endsInTests "build".toList
  have hwarned := (hfiles _ _ reaches_warnedPath isMatch_foreign.1).2.2 ⟨_, rfl⟩ not_isText_foreign.2
  have hsilent := mt (hfiles _ _ reaches_silentPath isMatch_foreign.2).1.1 not_isText_foreign.1
  rw [not_or] at hsilent
  exact ⟨wellFormed_foreign, reaches_warnedPath, reaches_silentPath, skipped, hevents, hwarned,
    hsilent.2, hsilent.1⟩

/-- **Not every test binary is accounted for:** one whose name is not text may be neither returned nor
reported. -/
theorem not_discover_accounts :
    ¬∀ (tree : FileTree) (here : Location) (pattern : Glob.NamePattern) (root : Text)
      (path name : Bytes), tree.WellFormed → Reaches tree here root path name →
        pattern.pattern.isMatch name = true → Returns tree here pattern root path ∨
          ¬Utf8.IsText path ∧ notTextEvent path ∈ (discover tree here pattern root).2 := by
  intro h
  rcases h foreign [] endsInTests "build".toList silentPath (0xFF :: Utf8.encode "_tests".toList)
    wellFormed_foreign reaches_silentPath isMatch_foreign.2 with hreturns | ⟨-, hevent⟩
  · have hname := ((reaches_silentPath.returns_iff wellFormed_foreign).1 hreturns).1
    exact not_isText_foreign.1 ((nameMatches_iff_isText isMatch_foreign.2).1 hname)
  · have hwarning := List.mem_filter.2 ⟨hevent, (rfl : saysNotText (notTextEvent silentPath) = true)⟩
    rw [filter_discover, skippedPaths_foreign] at hwarning
    revert hwarning
    decide +kernel

end Discovery
end TestBench
