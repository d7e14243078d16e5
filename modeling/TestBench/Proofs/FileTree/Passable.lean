/-
# The paths that a walk takes

A walk is told what it is inside of by its trail.  Which paths it takes can be said without one, by the
paths alone: every prefix has to lead to a directory that can be listed, and no link among them may lead
back to the directory of a shorter prefix (`Passable`).

`Inside` is what ties the two together.  It holds where a walk starts and is kept when a directory is
entered (`Inside.enter`); by it a name is entered iff the path stays passable
(`Inside.look_eq_enter_iff`).  So what a walk finds is at passable paths (`Inside.exists_passable`), and
it misses no executable file at one (`Inside.mem_walkNames`).
-/

import TestBench.Proofs.FileTree.Walk
import Mathlib.Data.List.Infix

namespace TestBench
namespace FileTree

variable {tree : FileTree} {here : Location} {root : Bytes} {before : List Bytes} {name : Bytes}

/-- A link called `name` leads back from where `before` led: to the directory of a prefix of `before`. -/
def LeadsBack (tree : FileTree) (here : Location) (root : Bytes) (before : List Bytes) (name : Bytes) :
    Prop :=
  (∃ location, tree.resolve here (pathTo root before) = .ok location ∧ tree.IsLink location name) ∧
    ∃ shorter, shorter <+: before ∧ ∃ location,
      tree.resolve here (pathTo root shorter) = .ok location ∧
        tree.resolve here (pathTo root (before ++ [name])) = .ok location

/-- One can go through the directories called `names` below `root`: each can be listed, and no link
among them leads back. -/
structure Passable (tree : FileTree) (here : Location) (root : Bytes) (names : List Bytes) : Prop where
  opens : ∀ before, before <+: names → ∃ location, tree.Opens here (pathTo root before) location
  not_leadsBack : ∀ before name, before ++ [name] <+: names → ¬tree.LeadsBack here root before name

theorem passable_nil_iff :
    tree.Passable here root [] ↔ ∃ location, tree.Opens here root location := by
  constructor
  · intro h
    exact h.opens [] List.prefix_rfl
  · intro h
    refine ⟨fun before hbefore => ?_, fun before name hbefore => ?_⟩
    · rw [List.prefix_nil.1 hbefore]
      exact h
    · exact absurd (List.prefix_nil.1 hbefore) (by simp)

theorem Passable.of_prefix {names : List Bytes} (h : tree.Passable here root names)
    (hbefore : before <+: names) : tree.Passable here root before where
  opens b hb := h.opens b (hb.trans hbefore)
  not_leadsBack b n hb := h.not_leadsBack b n (hb.trans hbefore)

theorem passable_concat_iff :
    tree.Passable here root (before ++ [name]) ↔ tree.Passable here root before ∧
      (∃ location, tree.Opens here (pathTo root (before ++ [name])) location) ∧
        ¬tree.LeadsBack here root before name := by
  constructor
  · intro h
    exact ⟨h.of_prefix (List.prefix_append before [name]), h.opens _ List.prefix_rfl,
      h.not_leadsBack _ _ List.prefix_rfl⟩
  · rintro ⟨h, hopens, hback⟩
    refine ⟨fun b hb => ?_, fun b n hb => ?_⟩
    · rcases List.prefix_concat_iff.1 hb with rfl | hb
      · exact hopens
      · exact h.opens b hb
    · rcases List.prefix_concat_iff.1 hb with heq | hb
      · obtain ⟨rfl, hn⟩ := List.append_inj' heq rfl
        obtain rfl := List.singleton_inj.1 hn
        exact hback
      · exact h.not_leadsBack b n hb

/-- A walk from `root` that went through `before` is in the directory at `location`. -/
structure Inside (tree : FileTree) (here : Location) (root : Bytes) (before : List Bytes) (trail : Trail)
    (location : Location) : Prop where
  isName : ∀ n ∈ before, IsName n
  passable : tree.Passable here root before
  opens : tree.Opens here (pathTo root before) location
  /-- The trail has the directories of all prefixes. -/
  mem_trail : ∀ l, l ∈ trail.map Prod.fst ↔
    ∃ shorter, shorter <+: before ∧ tree.resolve here (pathTo root shorter) = .ok l

namespace Inside

variable {trail : Trail} {location target : Location}

/-- A walk starts inside of its root. -/
theorem start (h : tree.Opens here root location) :
    tree.Inside here root [] [(location, root)] location where
  isName := by simp
  passable := passable_nil_iff.2 ⟨location, h⟩
  opens := h
  mem_trail l := by
    simp only [List.prefix_nil, exists_eq_left, pathTo_nil, h.resolve, List.map_cons, List.map_nil,
      List.mem_singleton, Except.ok.injEq, eq_comm]

theorem leadsBack_iff (h : tree.Inside here root before trail location)
    (htarget : tree.resolve here (pathTo root (before ++ [name])) = .ok target) :
    tree.LeadsBack here root before name ↔ tree.IsLink location name ∧ target ∈ trail.map Prod.fst := by
  rw [LeadsBack, h.mem_trail, h.opens.resolve, htarget]
  simp

/-- **A name is entered iff the path stays passable.** -/
theorem look_eq_enter_iff (h : tree.Inside here root before trail location) (hname : IsName name) :
    tree.look here trail location (pathTo root before) name = .enter target ↔
      tree.Opens here (pathTo root (before ++ [name])) target ∧ ¬tree.LeadsBack here root before name := by
  rw [FileTree.look_eq_enter_iff hname h.opens.resolve, ← pathTo_concat]
  refine and_congr_right fun hopens => ?_
  rw [h.leadsBack_iff hopens.resolve, not_and]

/-- A directory that is entered is gone inside of. -/
theorem enter (h : tree.Inside here root before trail location) (hname : IsName name)
    (henter : tree.look here trail location (pathTo root before) name = .enter target) :
    tree.Inside here root (before ++ [name]) ((target, pathTo root (before ++ [name])) :: trail)
      target := by
  obtain ⟨hopens, hback⟩ := (h.look_eq_enter_iff hname).1 henter
  refine ⟨?_, passable_concat_iff.2 ⟨h.passable, ⟨target, hopens⟩, hback⟩, hopens, fun l => ?_⟩
  · exact List.forall_mem_append.2 ⟨h.isName, List.forall_mem_singleton.2 hname⟩
  · rw [List.map_cons, List.mem_cons, h.mem_trail]
    simp only [List.prefix_concat_iff, or_and_right, exists_or, exists_eq_left, hopens.resolve,
      Except.ok.injEq, eq_comm]

/-- **What a walk finds** is below directories that can be passed, and is called by the last name of its
path. -/
theorem exists_passable (htree : tree.WellFormed) (h : tree.Inside here root before trail location)
    (hmem : name ∈ tree.names location) {shown last : Bytes}
    (hfound : .file shown last ∈ tree.under here trail location (pathTo root before) name) :
    ∃ names, (∀ n ∈ names ++ [last], IsName n) ∧ tree.Passable here root names ∧
      shown = pathTo root (names ++ [last]) := by
  generalize hpath : pathTo root before = path at hfound
  induction trail, location, path, name using walk_induction tree here generalizing before with
  | step trail location path name ih =>
    subst hpath
    have hname := htree.isName_of_mem_names hmem
    rcases mem_under_iff.1 hfound with hreport | ⟨target, henter, child, hchild, hfound⟩
    · obtain ⟨rfl, rfl⟩ : shown = joinName (pathTo root before) name ∧ last = name := by
        simpa using of_look_eq_report hreport
      exact ⟨before, List.forall_mem_append.2 ⟨h.isName, List.forall_mem_singleton.2 hname⟩, h.passable,
        (pathTo_concat root before last).symm⟩
    · have hinside := h.enter hname henter
      rw [pathTo_concat] at hinside
      exact ih target henter child hchild hinside hchild (pathTo_concat root before name) hfound

/-- **A walk misses nothing** that may be executed and is below directories that can be passed. -/
theorem mem_walkNames (h : tree.Inside here root before trail location) {rest : List Bytes} {last : Bytes}
    (hnames : ∀ n ∈ rest ++ [last], IsName n) (hpassable : tree.Passable here root (before ++ rest))
    (hexecutable : tree.isExecutable here (pathTo root (before ++ rest ++ [last])) = true) :
    .file (pathTo root (before ++ rest ++ [last])) last
      ∈ tree.walkNames here trail location (pathTo root before) (tree.names location) := by
  rw [walkNames_eq_flatMap, List.mem_flatMap]
  induction rest generalizing before trail location with
  | nil =>
    rw [List.append_nil, pathTo_concat] at hexecutable
    have hlook := look_of_isExecutable trail (hnames last (by simp)) h.opens.resolve hexecutable
    refine ⟨last, mem_names_of_look hlook nofun, mem_under_iff.2 (.inl ?_)⟩
    rw [hlook, List.append_nil, pathTo_concat]
  | cons next rest ih =>
    have hnext : IsName next := hnames next (by simp)
    rw [List.append_cons before next rest] at hpassable hexecutable ⊢
    obtain ⟨-, ⟨target, hopens⟩, hback⟩ :=
      passable_concat_iff.1 (hpassable.of_prefix (List.prefix_append _ rest))
    have henter := (h.look_eq_enter_iff hnext).2 ⟨hopens, hback⟩
    obtain ⟨child, hchild, hfound⟩ := ih (h.enter hnext henter)
      (fun n hn => hnames n (List.mem_cons_of_mem next hn)) hpassable hexecutable
    refine ⟨next, mem_names_of_look henter nofun, mem_under_iff.2 (.inr ?_)⟩
    rw [← pathTo_concat]
    exact ⟨target, henter, child, hchild, hfound⟩

end Inside
end FileTree
end TestBench
