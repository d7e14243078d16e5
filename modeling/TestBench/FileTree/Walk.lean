/-
# Walking a file tree

A walk visits everything below a directory, depth first, each directory in the order of its listing,
and follows links.  A link that leads to a directory which the walk is inside of is a loop and is not
entered; a link that leads nowhere is a fault; both are reported and the walk goes on.

The walk ends: a link is only entered if it leads to a directory that the walk is not inside of, so
that there are fewer such directories afterwards, and between two links it goes down a real branch of
the tree, which is no longer than the tree is high.
-/

import TestBench.FileTree.Resolve

namespace TestBench
namespace FileTree

/-- What a walk comes across. -/
inductive Finding where
  /-- A regular file, or a link to one: its path, and the name that the path ends with. -/
  | file (path name : Bytes)
  /-- Something that cannot be looked at. -/
  | fault (path : Bytes) (err : SystemError)
  /-- A link to a directory that the walk is inside of, by the path of that directory. -/
  | loop (path ancestor : Bytes)
  deriving DecidableEq, Repr

/-- The directories that the walk is inside of, innermost first, with the paths that led there. -/
abbrev Trail := List (Location × Bytes)

/-- The directories of the tree that the walk is not inside of. -/
def outside (tree : FileTree) (trail : Trail) : List Location :=
  tree.directories.filter fun l => !(trail.map Prod.fst).contains l

theorem sublist_filter_of_imp {α : Type} {p q : α → Bool} (l : List α)
    (h : ∀ a, p a = true → q a = true) : (l.filter p).Sublist (l.filter q) := by
  have : l.filter p = (l.filter q).filter p := by
    rw [List.filter_filter]
    apply List.filter_congr
    intro a _
    cases hp : p a with
    | false => simp
    | true => simp [h a hp]
  rw [this]
  exact List.filter_sublist

theorem length_outside_cons_le (tree : FileTree) (trail : Trail) (step : Location × Bytes) :
    (tree.outside (step :: trail)).length ≤ (tree.outside trail).length := by
  unfold outside
  apply List.Sublist.length_le
  apply sublist_filter_of_imp
  intro l h
  simp only [List.map_cons, List.contains_cons, Bool.not_or, Bool.and_eq_true] at h
  exact h.2

theorem length_outside_cons_lt {tree : FileTree} {trail : Trail} {step : Location × Bytes}
    (hd : tree.entry? step.1 = some .directory) (hn : step.1 ∉ trail.map Prod.fst) :
    (tree.outside (step :: trail)).length < (tree.outside trail).length := by
  have hmem : step.1 ∈ tree.outside trail := by
    unfold outside
    rw [List.mem_filter]
    exact ⟨mem_directories hd, by simpa using hn⟩
  have hsub : (tree.outside (step :: trail)).Sublist ((tree.outside trail).filter (· ≠ step.1)) := by
    unfold outside
    rw [List.filter_filter]
    apply sublist_filter_of_imp
    intro l h
    simp only [List.map_cons, List.contains_cons, Bool.not_or, Bool.and_eq_true] at h ⊢
    exact ⟨by simpa using h.1, h.2⟩
  refine Nat.lt_of_le_of_lt hsub.length_le ?_
  exact List.length_filter_lt_length_iff_exists.2 ⟨_, hmem, by simp⟩

/-- What the walk finds under the `names` of the directory at `location`, which `path` led to. -/
def walkNames (tree : FileTree) (here : Location) (trail : Trail) (location : Location)
    (path : Bytes) : (names : List Bytes) → List Finding
  | [] => []
  | name :: rest =>
    let childPath := joinName path name
    let found :=
      match _ : tree.entry? (location ++ [name]) with
      | none => []
      | some (.file _ _) => [.file childPath name]
      | some .directory =>
        match tree.list here childPath with
        | .error err => [.fault childPath err]
        | .ok _ =>
          walkNames tree here ((location ++ [name], childPath) :: trail) (location ++ [name])
            childPath (tree.names (location ++ [name]))
      | some (.link _) =>
        match tree.resolve here childPath with
        | .error err => [.fault childPath err]
        | .ok target =>
          match _ : tree.entry? target with
          | none => [.fault childPath .notFound]
          | some (.file _ _) => [.file childPath name]
          | some (.link _) => []
          | some .directory =>
            match _ : trail.find? fun (l, _) => l = target with
            | some (_, ancestor) => [.loop childPath ancestor]
            | none =>
              match tree.list here childPath with
              | .error err => [.fault childPath err]
              | .ok _ =>
                walkNames tree here ((target, childPath) :: trail) target childPath
                  (tree.names target)
    found ++ walkNames tree here trail location path rest
termination_by names => ((tree.outside trail).length, tree.height - location.length, names.length)
decreasing_by
  · have hle := length_outside_cons_le tree trail (location ++ [name], joinName path name)
    have hheight := length_le_height ‹tree.entry? (location ++ [name]) = some .directory›
    rcases Nat.lt_or_eq_of_le hle with hlt | heq
    · exact Prod.Lex.left _ _ hlt
    · rw [heq]
      refine Prod.Lex.right _ (Prod.Lex.left _ _ ?_)
      simp only [List.length_append, List.length_cons, List.length_nil] at hheight ⊢
      omega
  · refine Prod.Lex.left _ _ (length_outside_cons_lt ‹tree.entry? target = some .directory› ?_)
    intro hmem
    obtain ⟨step, hs, he⟩ := List.mem_map.1 hmem
    have hnone : trail.find? (fun (l, _) => l = target) = none := ‹_›
    have hne := List.find?_eq_none.1 hnone step hs
    simp [he] at hne
  · exact Prod.Lex.right _ (Prod.Lex.right _ (by simp))

/-- What a walk from the directory that `root` leads to comes across; an error if `root` cannot be
listed. -/
def walk (tree : FileTree) (here : Location) (root : Bytes) : Except SystemError (List Finding) :=
  match tree.resolve here root, tree.list here root with
  | .ok location, .ok names => .ok (tree.walkNames here [(location, root)] location root names)
  | .error err, _ => .error err
  | _, .error err => .error err

end FileTree
end TestBench
