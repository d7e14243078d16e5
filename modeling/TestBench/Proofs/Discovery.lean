/-
# When test binaries cannot be looked for

Only the build directory itself can stop the search, and only if it is there and cannot be listed.

| the build directory | the search |
| --- | --- |
| can be listed | finds what the walk finds |
| is not there | finds nothing |
| is there, but cannot be listed (`Unsearchable`) | fails |
-/

import TestBench.Discovery

namespace TestBench

namespace FileTree

/-- A walk fails as the listing of its root fails. -/
theorem walk_eq_error_iff {tree : FileTree} {here : Location} {root : Bytes} {err : SystemError} :
    tree.walk here root = .error err ↔ tree.list here root = .error err := by
  rw [walk]
  cases hresolve : tree.resolve here root with
  | error cause => simp [list, hresolve]
  | ok location => cases tree.list here root <;> simp

end FileTree

namespace Discovery

/-- The build directory is there, but cannot be listed. -/
def Unsearchable (tree : FileTree) (here : Location) (root : Text) : Prop :=
  ∃ cause, cause ≠ .notFound ∧ tree.list here (Utf8.encode root) = .error cause

/-- The build directory can be listed, or is not there. -/
def Searchable (tree : FileTree) (here : Location) (root : Text) : Prop :=
  (∃ names, tree.list here (Utf8.encode root) = .ok names) ∨
    tree.list here (Utf8.encode root) = .error .notFound

theorem not_unsearchable_iff {tree : FileTree} {here : Location} {root : Text} :
    ¬Unsearchable tree here root ↔ Searchable tree here root := by
  rw [Unsearchable, Searchable]
  rcases tree.list here (Utf8.encode root) with cause | names
  · simp
  · simp

/-- **The search fails** iff the build directory is there but cannot be listed. -/
theorem exists_discover_eq_error_iff {tree : FileTree} {here : Location} {pattern : Glob.NamePattern}
    {root : Text} :
    (∃ err, (discover tree here pattern root).1 = .error err) ↔ Unsearchable tree here root := by
  rw [discover]
  constructor
  · rintro ⟨err, h⟩
    split at h
    · simp at h
    next cause hfound hwalk =>
      exact ⟨cause, hfound, FileTree.walk_eq_error_iff.1 hwalk⟩
    · simp at h
  · rintro ⟨cause, hfound, hlist⟩
    rw [FileTree.walk_eq_error_iff.2 hlist]
    split
    next heq => exact absurd (Except.error.inj heq) hfound
    next => exact ⟨_, rfl⟩
    next heq => simp at heq

theorem exists_discover_eq_error {tree : FileTree} {here : Location} (pattern : Glob.NamePattern)
    {root : Text} (h : Unsearchable tree here root) :
    ∃ err events, discover tree here pattern root = (.error err, events) := by
  obtain ⟨err, herr⟩ := exists_discover_eq_error_iff.2 h
  exact ⟨err, (discover tree here pattern root).2, Prod.ext herr rfl⟩

end Discovery
end TestBench
