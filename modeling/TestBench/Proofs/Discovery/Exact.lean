/-
# Discovery is exact

The test binaries below a build directory can be told without walking it (`IsTestBinary`): by the
directories that their paths go through, the file that they lead to, and their names.  The search finds
exactly these, each once.

| the build directory | what is found |
| --- | --- |
| can be listed | the test binaries below it |
| is not there | nothing |
| neither | an error |
-/

import TestBench.Launch
import TestBench.Proofs.Discovery
import TestBench.Proofs.FileTree.Passable
import TestBench.Proofs.Text.Utf8
import Mathlib

namespace TestBench
namespace Discovery

open FileTree

/-- The path of a test binary continues `root` by names, all but the last of which are passable
directories; it leads to a regular file that may be executed, and the last name is text that matches. -/
def IsTestBinary (tree : FileTree) (here : Location) (pattern : Glob.NamePattern) (root path : Text) :
    Prop :=
  ∃ before name, (∀ n ∈ before ++ [name], IsName n) ∧
    Utf8.encode path = pathTo (Utf8.encode root) (before ++ [name]) ∧
    tree.Passable here (Utf8.encode root) before ∧
    (∃ location content mode, tree.resolve here (Utf8.encode path) = .ok location ∧
      tree.entry? location = some (.file content mode) ∧ isExecutableMode mode = true) ∧
    ∃ text, Utf8.encode text = name ∧ pattern.isMatch text = true

variable {tree : FileTree} {here location : Location} {pattern : Glob.NamePattern} {root path : Text}

theorem nameMatches_iff {name : Bytes} :
    nameMatches pattern name = true ↔ ∃ text, Utf8.encode text = name ∧ pattern.isMatch text = true := by
  simp only [← Utf8.toText?_eq_some_iff]
  rw [nameMatches]
  cases Utf8.toText? name with
  | none => simp
  | some text => simp

@[simp] theorem judge_fault (shown : Bytes) (err : SystemError) :
    (judge tree here pattern (.fault shown err)).1 = none := rfl

@[simp] theorem judge_loop (shown ancestor : Bytes) :
    (judge tree here pattern (.loop shown ancestor)).1 = none := rfl

/-- A finding is a test binary if it is a file that matches and may be executed. -/
theorem judge_eq_some_iff {finding : Finding} :
    (judge tree here pattern finding).1 = some path ↔
      ∃ name, finding = .file (Utf8.encode path) name ∧ nameMatches pattern name = true ∧
        tree.isExecutable here (Utf8.encode path) = true := by
  cases finding with
  | fault shown err => simp
  | loop shown ancestor => simp
  | file shown name =>
    rw [judge]
    by_cases hmatch : nameMatches pattern name = true
    · rw [if_pos hmatch]
      cases htext : Utf8.toText? shown with
      | none =>
        simp only [reduceCtorEq, false_iff]
        rintro ⟨name', hfile, -⟩
        rw [(Finding.file.inj hfile).1, Utf8.toText?_eq_some_iff.2 rfl] at htext
        simp at htext
      | some text =>
        obtain rfl := Utf8.toText?_eq_some_iff.1 htext
        dsimp only
        constructor
        · intro h
          split_ifs at h with hexecutable
          obtain rfl := Option.some.inj h
          exact ⟨name, rfl, hmatch, hexecutable⟩
        · rintro ⟨name', hfile, -, hexecutable⟩
          obtain rfl := Utf8.encode_injective (Finding.file.inj hfile).1
          rw [if_pos hexecutable]
    · simp only [if_neg hmatch, reduceCtorEq, false_iff]
      rintro ⟨name', hfile, hmatch', -⟩
      rw [← (Finding.file.inj hfile).2] at hmatch'
      exact hmatch hmatch'

/-- A walk from a directory that can be listed. -/
theorem walk_of_opens (h : tree.Opens here (Utf8.encode root) location) :
    tree.walk here (Utf8.encode root) = .ok (tree.walkNames here [(location, Utf8.encode root)] location
      (Utf8.encode root) (tree.names location)) := by
  rw [walk, h.resolve, list_eq_ok_iff.2 ⟨location, h, rfl⟩]

/-- What the search finds in a build directory that can be listed. -/
theorem discover_of_opens (h : tree.Opens here (Utf8.encode root) location) :
    (discover tree here pattern root).1
      = .ok ((tree.walkNames here [(location, Utf8.encode root)] location (Utf8.encode root)
          (tree.names location)).filterMap fun finding => (judge tree here pattern finding).1) := by
  rw [discover, walk_of_opens h]
  simp [List.filterMap_map]

/-- A test binary is told by a finding, and by what may be executed at its path. -/
theorem exists_finding_iff (htree : tree.WellFormed) (h : tree.Opens here (Utf8.encode root) location) :
    (∃ finding ∈ tree.walkNames here [(location, Utf8.encode root)] location (Utf8.encode root)
        (tree.names location), (judge tree here pattern finding).1 = some path) ↔
      IsTestBinary tree here pattern root path := by
  have hinside := Inside.start h
  simp only [judge_eq_some_iff, nameMatches_iff, isExecutable_iff]
  constructor
  · rintro ⟨finding, hfound, last, rfl, hmatch, hexecutable⟩
    rw [walkNames_eq_flatMap, List.mem_flatMap] at hfound
    obtain ⟨name, hname, hunder⟩ := hfound
    obtain ⟨names, hnames, hpassable, hshown⟩ := hinside.exists_passable htree hname hunder
    exact ⟨names, last, hnames, hshown, hpassable, hexecutable, hmatch⟩
  · rintro ⟨names, last, hnames, hshown, hpassable, hexecutable, hmatch⟩
    refine ⟨_, ?_, last, rfl, hmatch, hexecutable⟩
    rw [hshown] at hexecutable ⊢
    exact hinside.mem_walkNames hnames hpassable (isExecutable_iff.2 hexecutable)

/-- What is taken of findings by their paths is taken once. -/
theorem nodup_filterMap_walkNames {β : Type} {take : Finding → Option β} (pathOf : β → Bytes)
    (htake : ∀ finding b, take finding = some b → finding.shownPath = pathOf b) (htree : tree.WellFormed)
    (here : Location) (trail : Trail) (location : Location) (path : Bytes) :
    ((tree.walkNames here trail location path (tree.names location)).filterMap take).Nodup := by
  have hpaths := List.pairwise_map.1 (htree.nodup_shownPaths here trail location path)
  refine List.pairwise_filterMap.2 (hpaths.imp ?_)
  rintro finding finding' hne b hb b' hb' rfl
  exact hne ((htake finding b hb).trans (htake finding' b hb').symm)

/-- Nothing is found twice. -/
theorem nodup_found (htree : tree.WellFormed) (here : Location) (pattern : Glob.NamePattern)
    (trail : Trail) (location : Location) (shown : Bytes) :
    ((tree.walkNames here trail location shown (tree.names location)).filterMap fun finding =>
      (judge tree here pattern finding).1).Nodup := by
  refine nodup_filterMap_walkNames Utf8.encode (fun finding path hpath => ?_) htree here trail location
    shown
  obtain ⟨name, rfl, -⟩ := judge_eq_some_iff.1 hpath
  rfl

/-- **The path of a test binary** continues that of the build directory, and has a slash. -/
theorem IsTestBinary.exists_eq_append (h : IsTestBinary tree here pattern root path) :
    (∃ rest, rest ≠ [] ∧ path = root ++ rest) ∧ '/' ∈ path := by
  obtain ⟨before, name, hnames, hpath, -⟩ := h
  have hne : ∀ n ∈ before ++ [name], n ≠ [] := fun n hn => (hnames n hn).1
  rw [pathTo_concat] at hpath
  obtain ⟨front, hfront⟩ := prefix_pathTo (Utf8.encode root) fun n hn => hne n (List.mem_append_left _ hn)
  obtain ⟨back, hback, hjoined⟩ :=
    exists_joinName_eq_append (pathTo (Utf8.encode root) before) (hne name (by simp))
  constructor
  · rw [hjoined, ← hfront, List.append_assoc] at hpath
    obtain ⟨rest, hrest, heq⟩ := Utf8.exists_eq_append_of_encode_eq hpath
    refine ⟨rest, ?_, heq⟩
    rintro rfl
    simp [hback] at hrest
  · have hslash : Utf8.encodeChar '/' = [separator] := by decide
    apply Utf8.mem_of_mem_encode hslash
    rw [hpath]
    exact separator_mem_joinName _ _

/-- A program with a slash in its name is not looked up. -/
theorem find_of_slash_mem (h : '/' ∈ path) (tree : FileTree) (here : Location) (env : Program.Block) :
    Launch.find tree here env path
      = (Launch.executable tree here (Utf8.encode path)).map (Utf8.encode path, ·) := by
  have hne : path ≠ [] := List.ne_nil_of_mem h
  have hcontains : path.contains '/' = true := List.contains_iff_mem.2 h
  rw [Launch.find, if_neg hne, if_pos hcontains]

/-- **Discovery is exact.**  In a build directory that can be listed the search finds the test binaries
below it, each once and under a path that continues the build directory's and is never looked up.  In one
that is not there it finds nothing, and of any other it says why it cannot be listed. -/
theorem discover_exact (htree : tree.WellFormed) (here : Location) (pattern : Glob.NamePattern)
    (root : Text) :
    ((∃ location, tree.Opens here (Utf8.encode root) location) →
      ∃ paths, (discover tree here pattern root).1 = .ok paths ∧ paths.Nodup ∧
        (∀ path, path ∈ paths ↔ IsTestBinary tree here pattern root path) ∧
        ∀ path ∈ paths, (∃ rest, rest ≠ [] ∧ path = root ++ rest) ∧ '/' ∈ path ∧
          ∀ tree' here' env, Launch.find tree' here' env path
            = (Launch.executable tree' here' (Utf8.encode path)).map (Utf8.encode path, ·)) ∧
      (tree.resolveEntry here (Utf8.encode root) = .error .notFound →
        (discover tree here pattern root).1 = .ok []) ∧
      (tree.resolveEntry here (Utf8.encode root) ≠ .error .notFound →
        (¬∃ location, tree.Opens here (Utf8.encode root) location) →
          ∃ cause, tree.list here (Utf8.encode root) = .error cause ∧
            (discover tree here pattern root).1 = .error { root, cause }) := by
  refine ⟨?_, ?_, ?_⟩
  · rintro ⟨location, hopens⟩
    have hmem : ∀ path, path ∈ (tree.walkNames here [(location, Utf8.encode root)] location
        (Utf8.encode root) (tree.names location)).filterMap
          (fun finding => (judge tree here pattern finding).1) ↔
        IsTestBinary tree here pattern root path := by
      intro path
      rw [List.mem_filterMap, exists_finding_iff htree hopens]
    refine ⟨_, discover_of_opens hopens, nodup_found htree _ _ _ _ _, hmem, ?_⟩
    intro path hpath
    obtain ⟨hrest, hslash⟩ := ((hmem path).1 hpath).exists_eq_append
    exact ⟨hrest, hslash, find_of_slash_mem hslash⟩
  · intro hmissing
    rw [discover, walk_eq_error_iff.2 (list_eq_notFound_iff.2 hmissing)]
  · intro hfound hclosed
    cases hlist : tree.list here (Utf8.encode root) with
    | ok names =>
      obtain ⟨location, hopens, -⟩ := list_eq_ok_iff.1 hlist
      exact absurd ⟨location, hopens⟩ hclosed
    | error cause =>
      refine ⟨cause, rfl, ?_⟩
      have hcause : cause ≠ .notFound := by
        rintro rfl
        exact hfound (list_eq_notFound_iff.1 hlist)
      rw [discover, walk_eq_error_iff.2 hlist]
      split
      next heq => exact absurd (Except.error.inj heq) hcause
      next heq => rw [Except.error.inj heq]
      next heq => simp at heq

/-- A build directory with a binary, a link to it, a link to a directory beside it that holds another
binary and a plain file, a link back, a link to nowhere, and a directory that cannot be listed. -/
def tangled : FileTree :=
  { entries := [(["build"], .directory), (["build", "a_tests"], .file (.bytes []) 0o755),
      (["build", "lib"], .directory),
      (["build", "lib", "b_tests"], .link (Utf8.encode "../a_tests".toList)),
      (["build", "lib", "up"], .link (Utf8.encode "..".toList)),
      (["build", "lib", "other"], .link (Utf8.encode "../../side".toList)),
      (["build", "lib", "gone_tests"], .link (Utf8.encode "nowhere".toList)),
      (["build", "shut"], .directory), (["build", "shut", "d_tests"], .file (.bytes []) 0o755),
      (["side"], .directory), (["side", "c_tests"], .file (.bytes []) 0o755),
      (["side", "e_tests"], .file (.bytes []) 0o644)].map
        fun (names, entry) => (names.map fun name => Utf8.encode name.toList, entry)
    modes := [(["build", "shut"].map fun name => Utf8.encode name.toList, 0o311)] }

theorem wellFormed_tangled : tangled.WellFormed where
  nodup := by decide
  isName := by decide

theorem opens_tangled : tangled.Opens [] (Utf8.encode "build".toList) [Utf8.encode "build".toList] where
  resolve := by rfl
  directory := by rfl
  readable := by rfl

theorem walkNames_tangled :
    tangled.walkNames [] [([Utf8.encode "build".toList], Utf8.encode "build".toList)]
        [Utf8.encode "build".toList] (Utf8.encode "build".toList)
        (tangled.names [Utf8.encode "build".toList])
      = [.file (Utf8.encode "build/a_tests".toList) (Utf8.encode "a_tests".toList),
          .file (Utf8.encode "build/lib/b_tests".toList) (Utf8.encode "b_tests".toList),
          .loop (Utf8.encode "build/lib/up".toList) (Utf8.encode "build".toList),
          .file (Utf8.encode "build/lib/other/c_tests".toList) (Utf8.encode "c_tests".toList),
          .file (Utf8.encode "build/lib/other/e_tests".toList) (Utf8.encode "e_tests".toList),
          .fault (Utf8.encode "build/lib/gone_tests".toList) .notFound,
          .fault (Utf8.encode "build/shut".toList) .permissionDenied] := by
  cbv

/-- The usual pattern. -/
def endsInTests : Glob.NamePattern :=
  { text := "*_tests".toList
    pattern := [.star, .literal '_', .literal 't', .literal 'e', .literal 's', .literal 't', .literal 's'] }

theorem discover_tangled :
    (discover tangled [] endsInTests "build".toList).1
      = .ok ["build/a_tests".toList, "build/lib/b_tests".toList, "build/lib/other/c_tests".toList] := by
  have hfound : ∀ path name : Text, nameMatches endsInTests (Utf8.encode name) = true →
      tangled.isExecutable [] (Utf8.encode path) = true →
        (judge tangled [] endsInTests (.file (Utf8.encode path) (Utf8.encode name))).1 = some path :=
    fun path name hmatch hexecutable => judge_eq_some_iff.2 ⟨_, rfl, hmatch, hexecutable⟩
  have ha := hfound "build/a_tests".toList "a_tests".toList (by cbv) (by cbv)
  have hb := hfound "build/lib/b_tests".toList "b_tests".toList (by cbv) (by cbv)
  have hc := hfound "build/lib/other/c_tests".toList "c_tests".toList (by cbv) (by cbv)
  have he : (judge tangled [] endsInTests (.file (Utf8.encode "build/lib/other/e_tests".toList)
      (Utf8.encode "e_tests".toList))).1 = none := by
    refine Option.eq_none_iff_forall_ne_some.2 fun path hpath => ?_
    obtain ⟨name, hfile, -, hexecutable⟩ := judge_eq_some_iff.1 hpath
    have hplain : tangled.isExecutable [] (Utf8.encode "build/lib/other/e_tests".toList) = false := by cbv
    rw [(Finding.file.inj hfile).1, hexecutable] at hplain
    simp at hplain
  rw [discover_of_opens opens_tangled, walkNames_tangled]
  simp only [List.filterMap_cons, judge_loop, judge_fault, List.filterMap_nil, ha, hb, hc, he]

/-- Of the tangled directory the binary is found, the one that the link leads to, and the one in the
other directory; what stands behind the link back or in the directory that cannot be listed is no test
binary. -/
theorem discover_exact_tangled : tangled.WellFormed ∧
    (∃ location, tangled.Opens [] (Utf8.encode "build".toList) location) ∧
    Glob.NamePattern.ofText "*_tests".toList = .ok endsInTests ∧
      (∀ path, path ∈ ["build/a_tests".toList, "build/lib/b_tests".toList,
          "build/lib/other/c_tests".toList] ↔ IsTestBinary tangled [] endsInTests "build".toList path) ∧
      (discover tangled [] endsInTests "nowhere".toList).1 = .ok [] ∧
      (discover tangled [] endsInTests "build/a_tests".toList).1
        = .error { root := "build/a_tests".toList, cause := .notDirectory } := by
  refine ⟨wellFormed_tangled, ⟨_, opens_tangled⟩, rfl, ?_, ?_, ?_⟩
  · obtain ⟨paths, hfound, -, hmem, -⟩ :=
      (discover_exact wellFormed_tangled [] endsInTests "build".toList).1 ⟨_, opens_tangled⟩
    rw [discover_tangled] at hfound
    rw [Except.ok.inj hfound]
    exact hmem
  · exact (discover_exact wellFormed_tangled [] endsInTests "nowhere".toList).2.1 (by rfl)
  · have hlist : tangled.list [] (Utf8.encode "build/a_tests".toList) = .error .notDirectory := by rfl
    obtain ⟨cause, hcause, hfailed⟩ :=
      (discover_exact wellFormed_tangled [] endsInTests "build/a_tests".toList).2.2
        (fun h => absurd ((list_eq_notFound_iff.2 h).symm.trans hlist) (by simp)) fun ⟨location, hopens⟩ =>
          absurd ((list_eq_ok_iff.2 ⟨location, hopens, rfl⟩).symm.trans hlist) (by simp)
    rw [hfailed, ← Except.error.inj (hlist.symm.trans hcause)]

end Discovery
end TestBench
