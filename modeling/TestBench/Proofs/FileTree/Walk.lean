/-
# What a walk comes across

At each name in a directory a walk does one of three things: it passes on, it reports a finding, or it
enters a directory (`look`).  What it reports in a directory is what it reports under each of the names
(`walkNames_eq_flatMap`), and because it ends, what is true of a name whenever it is true of the names
in the directory that is entered there is true of every name (`walk_induction`).

In a well-formed tree what is reported under a name has a path that continues the path of the directory
by that name (`WellFormed.exists_shownPath_eq`), and no path is reported twice
(`WellFormed.nodup_shownPaths`).
-/

import TestBench.FileTree.Walk
import TestBench.Proofs.FileTree.WellFormed

namespace TestBench
namespace FileTree

variable {tree : FileTree} {here location : Location} {trail : Trail} {path name : Bytes}

/-! ### One name -/

/-- What a walk does at a name. -/
inductive Look where
  | pass
  | report (finding : Finding)
  /-- The directory at `location` is entered. -/
  | enter (location : Location)

/-- What a walk does at `name` in the directory at `location`, which `path` led to. -/
def look (tree : FileTree) (here : Location) (trail : Trail) (location : Location) (path name : Bytes) :
    Look :=
  match tree.entry? (location ++ [name]) with
  | none => .pass
  | some (.file _ _) => .report (.file (joinName path name) name)
  | some .directory =>
    match tree.list here (joinName path name) with
    | .error err => .report (.fault (joinName path name) err)
    | .ok _ => .enter (location ++ [name])
  | some (.link _) =>
    match tree.resolve here (joinName path name) with
    | .error err => .report (.fault (joinName path name) err)
    | .ok target =>
      match tree.entry? target with
      | none => .report (.fault (joinName path name) .notFound)
      | some (.file _ _) => .report (.file (joinName path name) name)
      | some (.link _) => .pass
      | some .directory =>
        match trail.find? fun (l, _) => l = target with
        | some (_, ancestor) => .report (.loop (joinName path name) ancestor)
        | none =>
          match tree.list here (joinName path name) with
          | .error err => .report (.fault (joinName path name) err)
          | .ok _ => .enter target

/-- What a walk reports under `name`. -/
def under (tree : FileTree) (here : Location) (trail : Trail) (location : Location) (path name : Bytes) :
    List Finding :=
  match tree.look here trail location path name with
  | .pass => []
  | .report finding => [finding]
  | .enter target =>
    tree.walkNames here ((target, joinName path name) :: trail) target (joinName path name)
      (tree.names target)

theorem walkNames_nil : tree.walkNames here trail location path [] = [] := by
  rw [walkNames]

theorem walkNames_cons (names : List Bytes) :
    tree.walkNames here trail location path (name :: names)
      = tree.under here trail location path name ++ tree.walkNames here trail location path names := by
  rw [walkNames]
  congr 1
  split
  next hentry => simp only [under, look, hentry]
  next hentry => simp only [under, look, hentry]
  next hentry =>
    split
    next hlist => simp only [under, look, hentry, hlist]
    next hlist => simp only [under, look, hentry, hlist]
  next hentry =>
    split
    next hresolve => simp only [under, look, hentry, hresolve]
    next hresolve =>
      split
      next htarget => simp only [under, look, hentry, hresolve, htarget]
      next htarget => simp only [under, look, hentry, hresolve, htarget]
      next htarget => simp only [under, look, hentry, hresolve, htarget]
      next htarget =>
        split
        next hloop => simp only [under, look, hentry, hresolve, htarget, hloop]
        next hloop =>
          split
          next hlist => simp only [under, look, hentry, hresolve, htarget, hloop, hlist]
          next hlist => simp only [under, look, hentry, hresolve, htarget, hloop, hlist]

/-- **A walk reports what it reports under each name.** -/
theorem walkNames_eq_flatMap (names : List Bytes) :
    tree.walkNames here trail location path names
      = names.flatMap (tree.under here trail location path) := by
  induction names with
  | nil => exact walkNames_nil
  | cons name names ih => rw [walkNames_cons, ih, List.flatMap_cons]

/-! ### Names that are entered, and names that are reported -/

/-- The name in the directory at `location` is that of a link. -/
def IsLink (tree : FileTree) (location : Location) (name : Bytes) : Prop :=
  ∃ destination, tree.entry? (location ++ [name]) = some (.link destination)

/-- What is entered is a directory that can be listed, and one that the walk is not inside of if a link
leads there. -/
theorem of_look_eq_enter {target : Location}
    (h : tree.look here trail location path name = .enter target) :
    (∃ names, tree.list here (joinName path name) = .ok names) ∧
      (target = location ++ [name] ∧ tree.entry? (location ++ [name]) = some .directory ∨
        tree.IsLink location name ∧ tree.resolve here (joinName path name) = .ok target ∧
          tree.entry? target = some .directory ∧ (trail.find? fun (l, _) => l = target) = none) := by
  rw [look] at h
  split at h
  next => simp at h
  next => simp at h
  next hentry =>
    split at h
    next => simp at h
    next names hlist => exact ⟨⟨names, hlist⟩, .inl ⟨(Look.enter.inj h).symm, hentry⟩⟩
  next destination hentry =>
    split at h
    next => simp at h
    next target' hresolve =>
      split at h
      next => simp at h
      next => simp at h
      next => simp at h
      next hdirectory =>
        split at h
        next => simp at h
        next hloop =>
          split at h
          next => simp at h
          next names hlist =>
            obtain rfl := Look.enter.inj h
            exact ⟨⟨names, hlist⟩, .inr ⟨⟨destination, hentry⟩, hresolve, hdirectory, hloop⟩⟩

theorem find?_trail_eq_none_iff {target : Location} :
    (trail.find? fun (l, _) => l = target) = none ↔ target ∉ trail.map Prod.fst := by
  simp [List.find?_eq_none]
  grind

/-- **What holds at a name** if it holds at all names of the directory that is entered there holds at
every name, because the walk ends. -/
theorem walk_induction (tree : FileTree) (here : Location)
    {motive : Trail → Location → Bytes → Bytes → Prop}
    (step : ∀ trail location path name,
      (∀ target, tree.look here trail location path name = .enter target →
        ∀ child ∈ tree.names target,
          motive ((target, joinName path name) :: trail) target (joinName path name) child) →
      motive trail location path name)
    (trail : Trail) (location : Location) (path name : Bytes) : motive trail location path name := by
  have hall := walkNames.induct tree here
    (fun trail location path names => ∀ name ∈ names, motive trail location path name)
  refine hall ?nil ?cons trail location path [name] name List.mem_cons_self
  case nil => simp
  case cons =>
    intro trail location path first rest childPath ihdirectory ihlink ihrest name hname
    rcases List.mem_cons.1 hname with rfl | hrest
    · refine step _ _ _ _ fun target henter child hchild => ?_
      rcases (of_look_eq_enter henter).2 with ⟨rfl, hentry⟩ | ⟨-, -, hdirectory, hloop⟩
      · exact ihdirectory hentry child hchild
      · exact ihlink target hdirectory hloop child hchild
    · exact ihrest name hrest

/-- **The walk enters** what opens, unless that is behind a link and the walk is inside of it. -/
theorem look_eq_enter_iff {target : Location} (hname : IsName name)
    (hpath : tree.resolve here path = .ok location) :
    tree.look here trail location path name = .enter target ↔
      tree.Opens here (joinName path name) target ∧
        (tree.IsLink location name → target ∉ trail.map Prod.fst) := by
  constructor
  · intro h
    obtain ⟨⟨names, hlist⟩, hkind⟩ := of_look_eq_enter h
    obtain ⟨target', hopens, -⟩ := list_eq_ok_iff.1 hlist
    rcases hkind with ⟨rfl, hentry⟩ | ⟨-, hresolve, -, hloop⟩
    · obtain ⟨entry, hentry', htarget⟩ := resolve_joinName hname hpath hopens.resolve
      obtain rfl := Option.some.inj (hentry.symm.trans hentry')
      obtain rfl := htarget (by simp)
      refine ⟨hopens, ?_⟩
      rintro ⟨destination, hlink⟩
      simp [hentry] at hlink
    · obtain rfl := Except.ok.inj (hresolve.symm.trans hopens.resolve)
      exact ⟨hopens, fun _ => find?_trail_eq_none_iff.1 hloop⟩
  · rintro ⟨hopens, hfresh⟩
    obtain ⟨entry, hentry, htarget⟩ := resolve_joinName hname hpath hopens.resolve
    have hlist := list_eq_ok_iff.2 ⟨target, hopens, rfl⟩
    rw [look, hentry]
    cases entry with
    | file content mode =>
      -- A file does not open.
      obtain rfl := htarget (by simp)
      exact absurd (hentry.symm.trans hopens.directory) (by simp)
    | directory =>
      obtain rfl := htarget (by simp)
      simp only [hlist]
    | link destination =>
      have hloop := find?_trail_eq_none_iff.2 (hfresh ⟨destination, hentry⟩)
      simp only [hopens.resolve, hopens.directory, hloop, hlist]

/-- What is reported of a name is reported under the path that the name continues. -/
theorem of_look_eq_report {finding : Finding}
    (h : tree.look here trail location path name = .report finding) :
    finding = .file (joinName path name) name ∨ (∃ err, finding = .fault (joinName path name) err) ∨
      ∃ ancestor, finding = .loop (joinName path name) ancestor := by
  rw [look] at h
  split at h
  next => simp at h
  next => exact .inl (Look.report.inj h).symm
  next =>
    split at h
    next err _ => exact .inr (.inl ⟨err, (Look.report.inj h).symm⟩)
    next => simp at h
  next =>
    split at h
    next err _ => exact .inr (.inl ⟨err, (Look.report.inj h).symm⟩)
    next =>
      split at h
      next => exact .inr (.inl ⟨.notFound, (Look.report.inj h).symm⟩)
      next => exact .inl (Look.report.inj h).symm
      next => simp at h
      next =>
        split at h
        next ancestor _ => exact .inr (.inr ⟨ancestor, (Look.report.inj h).symm⟩)
        next =>
          split at h
          next err _ => exact .inr (.inl ⟨err, (Look.report.inj h).symm⟩)
          next => simp at h

/-- A name at which the walk does not pass on is listed. -/
theorem mem_names_of_look {seen : Look} (h : tree.look here trail location path name = seen)
    (hseen : seen ≠ .pass) : name ∈ tree.names location := by
  cases hentry : tree.entry? (location ++ [name]) with
  | none =>
    rw [look, hentry] at h
    exact absurd h.symm hseen
  | some entry => exact mem_names_of_entry hentry

/-- Whatever may be executed is reported. -/
theorem look_of_isExecutable (trail : Trail) (hname : IsName name)
    (hpath : tree.resolve here path = .ok location)
    (h : tree.isExecutable here (joinName path name) = true) :
    tree.look here trail location path name = .report (.file (joinName path name) name) := by
  obtain ⟨target, content, mode, htarget, hfile, -⟩ := isExecutable_iff.1 h
  obtain ⟨entry, hentry, heq⟩ := resolve_joinName hname hpath htarget
  rw [look, hentry]
  cases entry with
  | file content mode => rfl
  | directory =>
    -- A directory cannot be executed.
    obtain rfl := heq (by simp)
    exact absurd (hentry.symm.trans hfile) (by simp)
  | link destination => simp only [htarget, hfile]

/-! ### What is reported, and under which paths -/

/-- The path that a finding is reported under. -/
def Finding.shownPath : Finding → Bytes
  | .file path _ | .fault path _ | .loop path _ => path

theorem shownPath_of_look_eq_report {finding : Finding}
    (h : tree.look here trail location path name = .report finding) :
    finding.shownPath = joinName path name := by
  rcases of_look_eq_report h with rfl | ⟨err, rfl⟩ | ⟨ancestor, rfl⟩ <;> rfl

theorem mem_under_iff {finding : Finding} :
    finding ∈ tree.under here trail location path name ↔
      tree.look here trail location path name = .report finding ∨
        ∃ target, tree.look here trail location path name = .enter target ∧
          ∃ child ∈ tree.names target,
            finding ∈ tree.under here ((target, joinName path name) :: trail) target
              (joinName path name) child := by
  rw [under]
  cases tree.look here trail location path name with
  | pass => simp
  | report finding' => simp [eq_comm]
  | enter target => simp [walkNames_eq_flatMap]

/-- **What is found under a name** is reported under a path that continues the path of the walk by that
name and further names. -/
theorem WellFormed.exists_shownPath_eq (h : tree.WellFormed) {finding : Finding}
    (hfinding : finding ∈ tree.under here trail location path name) :
    ∃ names, (∀ n ∈ names, IsName n) ∧ finding.shownPath = pathTo path (name :: names) := by
  induction trail, location, path, name using walk_induction tree here with
  | step trail location path name ih =>
    rcases mem_under_iff.1 hfinding with hreport | ⟨target, henter, child, hchild, hmem⟩
    · exact ⟨[], by simp, shownPath_of_look_eq_report hreport⟩
    · obtain ⟨names, hnames, hpath⟩ := ih target henter child hchild hmem
      exact ⟨child :: names, by simpa using ⟨h.isName_of_mem_names hchild, hnames⟩, hpath⟩

/-- Nothing is reported twice if nothing is under any of the names. -/
theorem WellFormed.nodup_shownPaths_of_under (h : tree.WellFormed) (location : Location)
    (hunder : ∀ name ∈ tree.names location,
      ((tree.under here trail location path name).map Finding.shownPath).Nodup) :
    ((tree.walkNames here trail location path (tree.names location)).map Finding.shownPath).Nodup := by
  rw [walkNames_eq_flatMap, List.map_flatMap, List.nodup_flatMap]
  refine ⟨hunder, (h.nodup_names location).imp_of_mem ?_⟩
  intro name name' hname hname' hne shown hshown hshown'
  obtain ⟨finding, hfinding, rfl⟩ := List.mem_map.1 hshown
  obtain ⟨finding', hfinding', heq⟩ := List.mem_map.1 hshown'
  obtain ⟨names, hnames, hpath⟩ := h.exists_shownPath_eq hfinding
  obtain ⟨names', hnames', hpath'⟩ := h.exists_shownPath_eq hfinding'
  have hjoined := pathTo_injective
    (List.forall_mem_cons.2 ⟨h.isName_of_mem_names hname, hnames⟩)
    (List.forall_mem_cons.2 ⟨h.isName_of_mem_names hname', hnames'⟩)
    (hpath.symm.trans (heq.symm.trans hpath'))
  exact hne (List.cons.inj hjoined).1

theorem WellFormed.nodup_under (h : tree.WellFormed) (here : Location) (trail : Trail)
    (location : Location) (path name : Bytes) :
    ((tree.under here trail location path name).map Finding.shownPath).Nodup := by
  induction trail, location, path, name using walk_induction tree here with
  | step trail location path name ih =>
    rw [under]
    cases henter : tree.look here trail location path name with
    | pass => exact List.nodup_nil
    | report finding => exact List.nodup_singleton _
    | enter target => exact h.nodup_shownPaths_of_under target (ih target henter)

/-- **Nothing is reported twice.** -/
theorem WellFormed.nodup_shownPaths (h : tree.WellFormed) (here : Location) (trail : Trail)
    (location : Location) (path : Bytes) :
    ((tree.walkNames here trail location path (tree.names location)).map Finding.shownPath).Nodup :=
  h.nodup_shownPaths_of_under location fun name _ => h.nodup_under here trail location path name

end FileTree
end TestBench
