/-
# File trees

A file tree is a root directory with files, directories and symbolic links below it.  Every entry has a
location: the names that lead to it from the root.  The entries are kept in the order of their
creation, which is the order in which a directory lists them.

A name is a sequence of bytes and need not be text.

A file can be read if it is readable.  A directory can be listed if it is readable, and what is in it can be
reached if it is searchable.  Everything belongs to whoever runs the program, so that the owner's permissions count.
-/

import TestBench.Program.Recipe
import TestBench.Program.Tool
import TestBench.Text.Keyed
import TestBench.Text.Utf8

namespace TestBench

/-- What a file holds. -/
inductive Content where
  | bytes (b : Bytes)
  /-- A program whose text does not matter. -/
  | program (recipe : Program.Recipe)
  /-- A standard tool. -/
  | tool (tool : Program.Tool)
  deriving DecidableEq, Repr

/-- The bytes of a file.  Of a program whose text does not matter they are the mark that binaries begin
with. -/
def Content.image : Content → Bytes
  | bytes b => b
  | program _ | tool _ => [0x7F, 0x45, 0x4C, 0x46]

/-- An entry of a file tree. -/
inductive Entry where
  /-- A regular file with its permission bits. -/
  | file (content : Content) (mode : Nat)
  | directory
  | link (target : Bytes)
  deriving DecidableEq, Repr

/-- The names that lead from the root to an entry. -/
abbrev Location := List Bytes

/-- The entries below a root directory, in the order of their creation. -/
structure FileTree where
  entries : List (Location × Entry)
  /-- The permission bits of the directories that do not have the usual ones. -/
  modes : List (Location × Nat) := []
  deriving DecidableEq, Repr

namespace FileTree

/-- A root directory without entries. -/
def empty : FileTree := { entries := [] }

/-- The entry at a location.  The root is a directory. -/
def entry? (tree : FileTree) (location : Location) : Option Entry :=
  if location = [] then some .directory else tree.entries.lookup location

/-- The names that the directory at `location` lists. -/
def names (tree : FileTree) (location : Location) : List Bytes :=
  tree.entries.filterMap fun (l, _) => if l.dropLast = location then l.getLast? else none

/-- The permission bits of a directory that nothing else is said of. -/
def usualMode : Nat := 0o755

/-- The permission bits of the directory at `location`. -/
def modeAt (tree : FileTree) (location : Location) : Nat :=
  (tree.modes.lookup location).getD usualMode

/-- The owner may read what has these permission bits. -/
def isReadableMode (mode : Nat) : Bool := mode &&& 0o400 != 0

/-- The directory at `location` can be listed. -/
def isReadable (tree : FileTree) (location : Location) : Bool := isReadableMode (tree.modeAt location)

/-- What is in the directory at `location` can be reached. -/
def isSearchable (tree : FileTree) (location : Location) : Bool :=
  tree.modeAt location &&& 0o100 != 0

/-- The tree after `location` got the entry `entry`. -/
def set (tree : FileTree) (location : Location) (entry : Entry) : FileTree :=
  { tree with entries := Keyed.put location entry tree.entries }

/-- The tree after the directory at `location` got the permission bits `mode`. -/
def setMode (tree : FileTree) (location : Location) (mode : Nat) : FileTree :=
  { tree with modes := Keyed.put location mode tree.modes }

/-- The tree without the entry at `location` and all below it. -/
def remove (tree : FileTree) (location : Location) : FileTree :=
  { entries := tree.entries.filter fun (l, _) => !location.isPrefixOf l
    modes := tree.modes.filter fun (l, _) => !location.isPrefixOf l }

/-- The longest way from the root to an entry. -/
def height (tree : FileTree) : Nat := (tree.entries.map fun (l, _) => l.length).foldl max 0

/-- The locations of the directories, the root first. -/
def directories (tree : FileTree) : List Location :=
  [] :: (tree.entries.filter fun (_, e) => e = .directory).map Prod.fst

theorem foldl_max_le {l : List Nat} {a n : Nat} (h : n ≤ a ∨ n ∈ l) : n ≤ l.foldl max a := by
  induction l generalizing a with
  | nil => simpa using h
  | cons b l ih =>
    simp only [List.foldl_cons]
    apply ih
    rcases h with h | h
    · exact .inl (by omega)
    · rcases List.mem_cons.1 h with rfl | h
      · exact .inl (by omega)
      · exact .inr h

/-- No way to an entry is longer than the height of the tree. -/
theorem length_le_height {tree : FileTree} {location : Location} {entry : Entry}
    (h : tree.entry? location = some entry) : location.length ≤ tree.height := by
  unfold entry? at h
  split at h
  · next hl => simp [hl]
  · exact foldl_max_le (.inr (List.mem_map.2 ⟨_, Keyed.mem_of_lookup h, rfl⟩))

/-- Every directory of the tree is listed by `directories`. -/
theorem mem_directories {tree : FileTree} {location : Location}
    (h : tree.entry? location = some .directory) : location ∈ tree.directories := by
  unfold entry? at h
  unfold directories
  split at h
  · next hl => simp [hl]
  · refine List.mem_cons_of_mem _ (List.mem_map.2 ⟨_, List.mem_filter.2 ⟨Keyed.mem_of_lookup h, ?_⟩, rfl⟩)
    simp

end FileTree
end TestBench
