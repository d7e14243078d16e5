/-
# Paths continued by names

A path that is continued by a name leads to the entry of that name in the directory that the path leads
to, or to wherever that entry leads if it is a link (`resolve_joinName`).  The reason is that a path is
followed part by part: what the first parts lead to, and how many links they take, does not depend on
the parts behind them (`follow_append`).

Different names continue a path differently (`pathTo_injective`), because the parts of the continued
path are those of the path, less an empty one at its end, and the names (`stem_pathTo`).
-/

import TestBench.FileTree.Resolve
import Mathlib.Tactic.SplitIfs

namespace TestBench
namespace FileTree

/-- What an entry of a directory may be called. -/
def IsName (name : Bytes) : Prop := name ≠ [] ∧ separator ∉ name ∧ name ≠ [46] ∧ name ≠ [46, 46]

instance : DecidablePred IsName := fun _ => inferInstanceAs (Decidable (_ ∧ _))

/-- A path continued by names. -/
def pathTo (path : Bytes) (names : List Bytes) : Bytes := names.foldl joinName path

@[simp] theorem pathTo_nil (path : Bytes) : pathTo path [] = path := rfl

@[simp] theorem pathTo_cons (path name : Bytes) (names : List Bytes) :
    pathTo path (name :: names) = pathTo (joinName path name) names := rfl

theorem pathTo_concat (path : Bytes) (names : List Bytes) (name : Bytes) :
    pathTo path (names ++ [name]) = joinName (pathTo path names) name := by
  rw [pathTo, List.foldl_append]
  rfl

/-! ### The parts of a continued path -/

/-- The parts of a path that are left in front when it is continued: an empty one at its end is not. -/
def stem (path : Bytes) : List Bytes :=
  if path.getLast? = some separator then (parts path).dropLast else parts path

theorem parts_of_not_mem {name : Bytes} (h : separator ∉ name) : parts name = [name] :=
  splitAll_of_forall_not fun b hb => by
    rw [beq_eq_false_iff_ne]
    rintro rfl
    exact h hb

theorem parts_append_separator (path rest : Bytes) :
    parts (path ++ separator :: rest) = parts path ++ parts rest :=
  splitAll_append_cons (p := fun b => b == separator) (beq_self_eq_true separator) path rest

/-- A path is its stem, behind which stands an empty part if the path ends with a separator. -/
theorem parts_eq_stem_append (path : Bytes) : parts path = stem path ∨ parts path = stem path ++ [[]] := by
  rw [stem]
  split_ifs with hlast
  · obtain ⟨front, rfl⟩ := List.getLast?_eq_some_iff.1 hlast
    rw [parts_append_separator]
    exact .inr (by simp [parts, splitAll])
  · exact .inl rfl

theorem parts_joinName {name : Bytes} (path : Bytes) (h : separator ∉ name) :
    parts (joinName path name) = stem path ++ [name] := by
  rw [joinName, stem]
  split_ifs with hlast
  · obtain ⟨front, rfl⟩ := List.getLast?_eq_some_iff.1 hlast
    rw [List.append_assoc, List.singleton_append, parts_append_separator, parts_append_separator,
      parts_of_not_mem h]
    simp [parts, splitAll]
  · rw [parts_append_separator, parts_of_not_mem h]

theorem getLast?_joinName {name : Bytes} (path : Bytes) (h : name ≠ []) :
    (joinName path name).getLast? = name.getLast? := by
  obtain ⟨b, rest, rfl⟩ := List.exists_cons_of_ne_nil h
  rw [joinName]
  split_ifs <;> simp [List.getLast?_append, List.getLast?_cons]

theorem stem_joinName {name : Bytes} (path : Bytes) (h : IsName name) :
    stem (joinName path name) = stem path ++ [name] := by
  have hlast : (joinName path name).getLast? ≠ some separator := by
    rw [getLast?_joinName path h.1]
    intro hname
    exact h.2.1 (List.mem_of_getLast? hname)
  rw [stem, if_neg hlast, parts_joinName path h.2.1]

theorem stem_pathTo (path : Bytes) {names : List Bytes} (h : ∀ name ∈ names, IsName name) :
    stem (pathTo path names) = stem path ++ names := by
  induction names generalizing path with
  | nil => simp
  | cons name names ih =>
    rw [List.forall_mem_cons] at h
    rw [pathTo_cons, ih _ h.2, stem_joinName path h.1, List.append_assoc, List.singleton_append]

/-- **A path tells by which names another one was continued.** -/
theorem pathTo_injective {path : Bytes} {names names' : List Bytes} (h : ∀ name ∈ names, IsName name)
    (h' : ∀ name ∈ names', IsName name) (heq : pathTo path names = pathTo path names') :
    names = names' := by
  have hstem := congrArg stem heq
  rw [stem_pathTo path h, stem_pathTo path h'] at hstem
  exact List.append_cancel_left hstem

/-- A path that is continued stays in front, and is no longer the whole. -/
theorem exists_joinName_eq_append {name : Bytes} (path : Bytes) (h : name ≠ []) :
    ∃ rest, rest ≠ [] ∧ joinName path name = path ++ rest := by
  rw [joinName]
  split_ifs with hlast
  · exact ⟨name, h, rfl⟩
  · exact ⟨separator :: name, by simp, rfl⟩

theorem separator_mem_joinName (path name : Bytes) : separator ∈ joinName path name := by
  rw [joinName]
  split_ifs with hlast
  · exact List.mem_append_left _ (List.mem_of_getLast? hlast)
  · simp

theorem prefix_pathTo (path : Bytes) {names : List Bytes} (h : ∀ name ∈ names, name ≠ []) :
    path <+: pathTo path names := by
  induction names generalizing path with
  | nil => exact List.prefix_rfl
  | cons name names ih =>
    rw [List.forall_mem_cons] at h
    obtain ⟨rest, -, hrest⟩ := exists_joinName_eq_append path h.1
    exact (hrest ▸ List.prefix_append path rest).trans (ih _ h.2)

/-! ### Following a path in two stretches -/

variable {tree : FileTree} {here location target : Location} {path name : Bytes}

/-- Up to the next link the first parts of a path either fail, or lead somewhere, or end at a link,
whatever comes behind them. -/
theorem followNames_append (tree : FileTree) (here : Location) (first : List Bytes) :
    (∃ err, ∀ rest, tree.followNames here (first ++ rest) = .error err) ∨
      (∃ mid, ∀ rest, tree.followNames here (first ++ rest) = tree.followNames mid rest) ∨
      ∃ dir target left, ∀ rest,
        tree.followNames here (first ++ rest) = .ok (.atLink dir target (left ++ rest)) := by
  induction first generalizing here with
  | nil => exact .inr (.inl ⟨here, fun _ => rfl⟩)
  | cons part first ih =>
    simp only [List.cons_append, followNames]
    split
    next =>
      split_ifs
      · exact ih here
      · exact .inl ⟨_, fun _ => rfl⟩
      · exact ih here
      · exact ih here.dropLast
      · exact .inl ⟨_, fun _ => rfl⟩
      · split
        next => exact .inl ⟨_, fun _ => rfl⟩
        next target _ => exact .inr (.inr ⟨here, target, first, fun _ => rfl⟩)
        next => exact ih (here ++ [part])
    next => exact .inl ⟨_, fun _ => rfl⟩
    next => exact .inl ⟨_, fun _ => rfl⟩

variable {links : Nat} {todo : List Bytes}

theorem follow_of_error {err : SystemError} (h : tree.followNames here todo = .error err) :
    tree.follow links here todo = .error err := by
  rw [follow.eq_def]
  simp only [h]

theorem follow_of_arrived (h : tree.followNames here todo = .ok (.arrived location)) :
    tree.follow links here todo = .ok location := by
  rw [follow.eq_def]
  simp only [h]

theorem follow_succ_of_link {dir : Location} {destination : Bytes} {rest : List Bytes}
    (h : tree.followNames here todo = .ok (.atLink dir destination rest)) :
    tree.follow (links + 1) here todo
      = tree.follow links (if startsAtRoot destination then [] else dir)
          (parts destination ++ rest) := by
  rw [follow.eq_def]
  simp only [h]

theorem follow_congr {mid : Location} {rest : List Bytes}
    (h : tree.followNames here todo = tree.followNames mid rest) :
    tree.follow links here todo = tree.follow links mid rest := by
  rw [follow.eq_def, follow.eq_def]
  simp only [h]

/-- **A path is followed in stretches.**  If the whole of it leads somewhere, its first parts do, and
what comes behind them is followed from there with the links that are left. -/
theorem follow_append {first rest : List Bytes}
    (h : tree.follow links here (first ++ rest) = .ok location) :
    ∃ left mid, (∀ rest', tree.follow links here (first ++ rest') = tree.follow left mid rest') ∧
      tree.follow left mid rest = .ok location := by
  induction links using Nat.strongRecOn generalizing here first with
  | ind links ih =>
    rcases tree.followNames_append here first with ⟨err, herr⟩ | ⟨mid, hmid⟩ | ⟨dir, target, left, hlink⟩
    · rw [follow_of_error (herr rest)] at h
      simp at h
    · rw [follow_congr (hmid rest)] at h
      exact ⟨links, mid, fun rest' => follow_congr (hmid rest'), h⟩
    · cases links with
      | zero =>
        rw [follow.eq_def] at h
        simp only [hlink rest, reduceCtorEq] at h
      | succ links =>
        -- The target of the link stands in front of the parts that are left.
        have hstep : ∀ rest', tree.follow (links + 1) here (first ++ rest')
            = tree.follow links (if startsAtRoot target then [] else dir)
                (parts target ++ left ++ rest') := by
          intro rest'
          rw [follow_succ_of_link (hlink rest'), List.append_assoc]
        rw [hstep] at h
        obtain ⟨links', mid, hmid, hrest⟩ := ih links (Nat.lt_succ_self links) h
        exact ⟨links', mid, fun rest' => (hstep rest').trans (hmid rest'), hrest⟩

theorem follow_nil : tree.follow links here [] = .ok here := follow_of_arrived rfl

/-- An empty part leads nowhere else. -/
theorem eq_of_follow_empty (h : tree.follow links here [[]] = .ok location) : here = location := by
  cases hentry : tree.entry? here with
  | none =>
    rw [follow_of_error (by simp only [followNames, hentry]; rfl)] at h
    simp at h
  | some entry =>
    cases entry with
    | directory =>
      rw [follow_of_arrived (by simp only [followNames, hentry, if_true]; rfl)] at h
      exact Except.ok.inj h
    | file content mode =>
      rw [follow_of_error (by simp only [followNames, hentry]; rfl)] at h
      simp at h
    | link destination =>
      rw [follow_of_error (by simp only [followNames, hentry]; rfl)] at h
      simp at h

/-- A single name leads to the entry that is called so, or to the link that is. -/
theorem followNames_name {pause : Pause} (hname : IsName name)
    (h : tree.followNames here [name] = .ok pause) :
    ∃ entry, tree.entry? (here ++ [name]) = some entry ∧
      ((∀ destination, entry ≠ .link destination) → pause = .arrived (here ++ [name])) := by
  obtain ⟨hne, -, hdot, hdots⟩ := hname
  simp only [followNames, hne, hdot, hdots, if_false] at h
  split at h
  next =>
    split_ifs at h
    split at h
    next => simp at h
    next destination hentry => exact ⟨_, hentry, fun hlink => absurd rfl (hlink destination)⟩
    next entry _ hentry => exact ⟨entry, hentry, fun _ => (Except.ok.inj h).symm⟩
  next => simp at h
  next => simp at h

theorem follow_name (hname : IsName name) (h : tree.follow links here [name] = .ok target) :
    ∃ entry, tree.entry? (here ++ [name]) = some entry ∧
      ((∀ destination, entry ≠ .link destination) → target = here ++ [name]) := by
  cases hpause : tree.followNames here [name] with
  | error err =>
    rw [follow_of_error hpause] at h
    simp at h
  | ok pause =>
    obtain ⟨entry, hentry, harrived⟩ := followNames_name hname hpause
    refine ⟨entry, hentry, fun hlink => ?_⟩
    rw [harrived hlink] at hpause
    rw [follow_of_arrived hpause] at h
    exact (Except.ok.inj h).symm

/-! ### Resolving a continued path -/

/-- Where a path that leads somewhere starts. -/
theorem follow_of_resolve (h : tree.resolve here path = .ok location) :
    path ≠ [] ∧
      tree.follow linkLimit (if startsAtRoot path then [] else here) (parts path) = .ok location := by
  rw [resolve] at h
  split at h
  next => simp at h
  next =>
    split at h
    next => simp at h
    next hempty =>
      split at h
      next => simp at h
      next => exact ⟨hempty, h⟩

theorem startsAtRoot_joinName (h : path ≠ []) (name : Bytes) :
    startsAtRoot (joinName path name) = startsAtRoot path := by
  obtain ⟨b, rest, rfl⟩ := List.exists_cons_of_ne_nil h
  rw [joinName]
  split_ifs <;> rfl

/-- **A path continued by a name leads to the entry of that name** in the directory that the path leads
to, unless that entry is a link; at any rate there is one. -/
theorem resolve_joinName (hname : IsName name) (hpath : tree.resolve here path = .ok location)
    (htarget : tree.resolve here (joinName path name) = .ok target) :
    ∃ entry, tree.entry? (location ++ [name]) = some entry ∧
      ((∀ destination, entry ≠ .link destination) → target = location ++ [name]) := by
  obtain ⟨hne, hfollow⟩ := follow_of_resolve hpath
  obtain ⟨-, hjoined⟩ := follow_of_resolve htarget
  rw [startsAtRoot_joinName hne, parts_joinName path hname.2.1] at hjoined
  -- The stem of the path already leads to `location`: the empty part that may follow it stays there.
  rcases parts_eq_stem_append path with hparts | hparts
  · rw [hparts, ← List.append_nil (stem path)] at hfollow
    obtain ⟨left, mid, hmid, hrest⟩ := follow_append hfollow
    rw [hmid] at hjoined
    rw [follow_nil] at hrest
    rw [← Except.ok.inj hrest]
    exact follow_name hname hjoined
  · rw [hparts] at hfollow
    obtain ⟨left, mid, hmid, hrest⟩ := follow_append hfollow
    rw [hmid] at hjoined
    rw [← eq_of_follow_empty hrest]
    exact follow_name hname hjoined

/-! ### Directories that can be listed, and files that may be executed -/

/-- The path leads to the directory at `location`, which can be listed. -/
structure Opens (tree : FileTree) (here : Location) (path : Bytes) (location : Location) : Prop where
  resolve : tree.resolve here path = .ok location
  directory : tree.entry? location = some .directory
  readable : tree.isReadable location = true

theorem list_eq_ok_iff {names : List Bytes} :
    tree.list here path = .ok names ↔ ∃ location, tree.Opens here path location ∧
      names = tree.names location := by
  constructor
  · intro h
    rw [list] at h
    split at h
    next => simp at h
    next location hresolve =>
      split at h
      next hentry =>
        split_ifs at h with hreadable
        exact ⟨location, ⟨hresolve, hentry, hreadable⟩, (Except.ok.inj h).symm⟩
      next => simp at h
      next => simp at h
  · rintro ⟨location, hopens, rfl⟩
    simp [list, hopens.resolve, hopens.directory, hopens.readable]

/-- Nothing can be listed exactly where nothing is. -/
theorem list_eq_notFound_iff :
    tree.list here path = .error .notFound ↔ tree.resolveEntry here path = .error .notFound := by
  rw [list, resolveEntry]
  cases tree.resolve here path with
  | error err => simp
  | ok location =>
    dsimp only
    cases tree.entry? location with
    | none => simp
    | some entry =>
      cases entry with
      | directory =>
        dsimp only
        split_ifs <;> simp
      | file content mode => simp
      | link destination => simp

theorem isExecutable_iff :
    tree.isExecutable here path = true ↔ ∃ location content mode,
      tree.resolve here path = .ok location ∧ tree.entry? location = some (.file content mode) ∧
        isExecutableMode mode = true := by
  rw [isExecutable, resolveEntry]
  cases tree.resolve here path with
  | error err => simp
  | ok location =>
    cases hentry : tree.entry? location with
    | none => simp [hentry]
    | some entry =>
      cases entry with
      | directory => simp [hentry]
      | file content mode => simp [hentry, and_assoc]
      | link destination => simp [hentry]

end FileTree
end TestBench
