/-
# Well-formed trees

In a well-formed tree no two entries are at the same location, and all are called by proper names: none
of the names is empty, has a separator in it, or means a directory that is not below.  Then a directory
lists each name once (`WellFormed.nodup_names`), and a path that is continued by a listed name leads to
its entry.

A tree stays well-formed when an entry is put into it, be it at a location (`WellFormed.set`) or at a
path (`WellFormed.place`), when permissions change, and when entries are removed.
-/

import TestBench.Proofs.FileTree.Resolve
import Mathlib.Data.List.Nodup

namespace TestBench
namespace FileTree

/-- No two entries are at the same location, and all have proper names. -/
structure WellFormed (tree : FileTree) : Prop where
  nodup : (tree.entries.map Prod.fst).Nodup
  isName : ∀ location ∈ tree.entries.map Prod.fst, ∀ name ∈ location, IsName name

variable {tree : FileTree} {here location : Location} {path name : Bytes}

/-- A well-formed tree stays well-formed when something is put at a location with proper names. -/
theorem WellFormed.set (h : tree.WellFormed) (entry : Entry) (hlocation : ∀ name ∈ location, IsName name) :
    (tree.set location entry).WellFormed where
  nodup := by
    rw [FileTree.set, Keyed.map_fst_put]
    split_ifs with hmem
    · exact h.nodup
    · rw [← List.concat_eq_append]
      exact h.nodup.concat hmem
  isName := by
    rw [FileTree.set, Keyed.map_fst_put]
    split_ifs with hmem
    · exact h.isName
    · intro l hl
      rcases List.mem_append.1 hl with hl | hl
      · exact h.isName l hl
      · rw [List.mem_singleton.1 hl]
        exact hlocation

theorem WellFormed.setMode (h : tree.WellFormed) (location : Location) (mode : Nat) :
    (tree.setMode location mode).WellFormed := ⟨h.nodup, h.isName⟩

theorem WellFormed.remove (h : tree.WellFormed) (location : Location) :
    (tree.remove location).WellFormed := by
  have hsublist : ((tree.remove location).entries.map Prod.fst).Sublist (tree.entries.map Prod.fst) :=
    List.filter_sublist.map Prod.fst
  exact ⟨h.nodup.sublist hsublist, fun l hl => h.isName l (hsublist.subset hl)⟩

/-! ### The names that a directory lists -/

/-- An entry is called by the last of the names that lead to it. -/
theorem dropLast_getLast?_iff {l : Location} :
    (if l.dropLast = location then l.getLast? else none) = some name ↔ l = location ++ [name] := by
  constructor
  · intro h
    split_ifs at h with hdrop
    obtain ⟨front, rfl⟩ := List.getLast?_eq_some_iff.1 h
    rw [List.dropLast_concat] at hdrop
    rw [hdrop]
  · rintro rfl
    simp

/-- A directory lists the names of the entries that are in it. -/
theorem mem_names_iff :
    name ∈ tree.names location ↔ location ++ [name] ∈ tree.entries.map Prod.fst := by
  simp only [names, List.mem_filterMap, dropLast_getLast?_iff, List.mem_map]

theorem mem_names_of_entry {entry : Entry} (h : tree.entry? (location ++ [name]) = some entry) :
    name ∈ tree.names location := by
  unfold entry? at h
  rw [if_neg (by simp)] at h
  exact mem_names_iff.2 (List.mem_map_of_mem (Keyed.mem_of_lookup h))

theorem WellFormed.isName_of_mem_names (h : tree.WellFormed) (hname : name ∈ tree.names location) :
    IsName name :=
  h.isName _ (mem_names_iff.1 hname) name (by simp)

theorem WellFormed.nodup_names (h : tree.WellFormed) (location : Location) :
    (tree.names location).Nodup := by
  have hkeys := List.pairwise_map.1 h.nodup
  refine List.pairwise_filterMap.2 (hkeys.imp ?_)
  intro pair pair' hne name hname name' hname' heq
  subst heq
  exact hne ((dropLast_getLast?_iff.1 hname).trans (dropLast_getLast?_iff.1 hname').symm)

theorem WellFormed.isName_of_entry (h : tree.WellFormed) {entry : Entry}
    (hentry : tree.entry? location = some entry) : ∀ n ∈ location, IsName n := by
  unfold entry? at hentry
  split_ifs at hentry with hroot
  · simp [hroot]
  · exact h.isName location (List.mem_map_of_mem (Keyed.mem_of_lookup hentry))

/-! ### Locations that paths lead to -/

/-- Parts of a path lead to a location with proper names, or to a link in a directory that has such a
location. -/
theorem WellFormed.isName_of_followNames (h : tree.WellFormed) (hhere : ∀ n ∈ here, IsName n)
    {todo : List Bytes} {pause : Pause} (hpause : tree.followNames here todo = .ok pause)
    (hlocation : pause = .arrived location ∨ ∃ target rest, pause = .atLink location target rest) :
    ∀ n ∈ location, IsName n := by
  induction todo generalizing here with
  | nil =>
    rw [followNames] at hpause
    obtain rfl := Except.ok.inj hpause
    obtain rfl : here = location := by simpa using hlocation
    exact hhere
  | cons part rest ih =>
    rw [followNames] at hpause
    split at hpause
    next =>
      split_ifs at hpause
      · exact ih hhere hpause
      · exact ih hhere hpause
      · exact ih (fun n hn => hhere n (List.dropLast_subset _ hn)) hpause
      · split at hpause
        next => simp at hpause
        next target hentry =>
          obtain rfl := Except.ok.inj hpause
          obtain rfl : here = location := by simpa using hlocation
          exact hhere
        next entry _ hentry => exact ih (h.isName_of_entry hentry) hpause
    next => simp at hpause
    next => simp at hpause

theorem WellFormed.isName_of_follow (h : tree.WellFormed) (hhere : ∀ n ∈ here, IsName n) {links : Nat}
    {todo : List Bytes} (hfollow : tree.follow links here todo = .ok location) :
    ∀ n ∈ location, IsName n := by
  fun_induction FileTree.follow tree links here todo with
  | case1 => simp at hfollow
  | case2 links here todo location' hpause =>
    obtain rfl := Except.ok.inj hfollow
    exact h.isName_of_followNames hhere hpause (.inl rfl)
  | case3 => simp at hfollow
  | case4 here todo dir target rest hpause links ih =>
    -- A link is followed from the root or from the directory that it is in.
    refine ih ?_ hfollow
    split_ifs
    · simp
    · exact h.isName_of_followNames hhere hpause (.inr ⟨target, rest, rfl⟩)

/-- The directories on the way are made with proper names. -/
theorem WellFormed.makeDirectories (h : tree.WellFormed) (hhere : ∀ n ∈ here, IsName n)
    {names : List Bytes} (hnames : ∀ n ∈ names, IsName n) :
    (tree.makeDirectories here names).1.WellFormed ∧
      ∀ n ∈ (tree.makeDirectories here names).2, IsName n := by
  induction names generalizing tree here with
  | nil => exact ⟨h, hhere⟩
  | cons name names ih =>
    rw [List.forall_mem_cons] at hnames
    rw [FileTree.makeDirectories]
    split
    next location hfollow => exact ih h (h.isName_of_follow hhere hfollow) hnames.2
    next =>
      have hjoined : ∀ n ∈ here ++ [name], IsName n :=
        List.forall_mem_append.2 ⟨hhere, List.forall_mem_singleton.2 hnames.1⟩
      exact ih (h.set .directory hjoined) hjoined hnames.2

/-- **A well-formed tree stays well-formed** when something is put at a path whose parts are proper
names. -/
theorem WellFormed.place (h : tree.WellFormed) (hhere : ∀ n ∈ here, IsName n) (entry : Entry)
    (hpath : ∀ part ∈ parts path, part ≠ [] → IsName part) :
    (tree.place here path entry).WellFormed := by
  have hparts : ∀ part ∈ (parts path).filter (· ≠ []), IsName part := by
    intro part hpart
    obtain ⟨hmem, hne⟩ := List.mem_filter.1 hpart
    exact hpath part hmem (by simpa using hne)
  have hstart : ∀ n ∈ (if startsAtRoot path then [] else here), IsName n := by
    split_ifs
    · simp
    · exact hhere
  obtain ⟨htree, hparent⟩ := h.makeDirectories hstart fun n hn => hparts n (List.dropLast_subset _ hn)
  rw [FileTree.place]
  cases hlast : ((parts path).filter (· ≠ [])).getLast? with
  | none => exact h
  | some name =>
    dsimp only
    by_cases hdot : name = [46]
    · rw [if_pos hdot]
      exact htree
    · rw [if_neg hdot]
      exact htree.set entry (List.forall_mem_append.2 ⟨hparent, List.forall_mem_singleton.2
        (hparts name (List.mem_of_getLast? hlast))⟩)

end FileTree
end TestBench
