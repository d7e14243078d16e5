/-
# Finding entries by their paths

A path is followed name by name from the root, or from the working directory if it is relative.

| part of a path | leads |
| --- | --- |
| empty, `.` | nowhere, but only from a directory |
| `..` | to the directory above |
| the name of a link | to wherever the link's target leads from here |
| any other name | to the entry of that name |

Any part but an empty one leads on only from a searchable directory.
At most forty links are followed.  Names have at most 255 bytes, and paths fewer than 4096.
-/

import TestBench.FileTree.Basic
import TestBench.Text.Decimal

namespace TestBench

/-- Why the system refuses an operation. -/
inductive SystemError where
  | notFound
  | permissionDenied
  | badExecutable
  | notDirectory
  | isDirectory
  | noSpace
  | nameTooLong
  | tooManyLinks
  /-- A path holds a NUL. -/
  | nulInPath
  /-- An argument of a program holds a NUL. -/
  | nulInArgument
  deriving DecidableEq, Repr

namespace SystemError

/-- What the system calls the error, and its number. -/
def description : SystemError → Text × Option Nat
  | notFound => ("No such file or directory".toList, some 2)
  | permissionDenied => ("Permission denied".toList, some 13)
  | badExecutable => ("Exec format error".toList, some 8)
  | notDirectory => ("Not a directory".toList, some 20)
  | isDirectory => ("Is a directory".toList, some 21)
  | noSpace => ("No space left on device".toList, some 28)
  | nameTooLong => ("File name too long".toList, some 36)
  | tooManyLinks => ("Too many levels of symbolic links".toList, some 40)
  | nulInPath => ("file name contained an unexpected NUL byte".toList, none)
  | nulInArgument => ("nul byte found in provided data".toList, none)

/-- What is said of the error. -/
def message (err : SystemError) : Text :=
  match err.description with
  | (text, none) => text
  | (text, some number) => text ++ " (os error ".toList ++ Decimal.write number ++ ")".toList

end SystemError

namespace FileTree

/-- The byte between two names of a path. -/
def separator : UInt8 := 47

/-- The parts of a path between its separators. -/
def parts (path : Bytes) : List Bytes := splitAll (· == separator) path

/-- The path starts at the root. -/
def startsAtRoot (path : Bytes) : Bool := path.head? = some separator

/-- How many links a path may lead through. -/
def linkLimit : Nat := 40

/-- The longest name. -/
def nameLimit : Nat := 255

/-- Paths are shorter than this. -/
def pathLimit : Nat := 4096

/-- What is left to do when a part of a path has been followed as far as the next link. -/
inductive Pause where
  /-- All parts are used up at this location. -/
  | arrived (location : Location)
  /-- A link was met in the directory `here`; `rest` is to follow behind its target. -/
  | atLink (here : Location) (target : Bytes) (rest : List Bytes)

/-- Parts of a path are followed from `here` up to the first link. -/
def followNames (tree : FileTree) : (here : Location) → List Bytes → Except SystemError Pause
  | here, [] => .ok (.arrived here)
  | here, part :: rest =>
    match tree.entry? here with
    | some .directory =>
      if part = [] then followNames tree here rest
      else if tree.isSearchable here = false then .error .permissionDenied
      else if part = [46] then followNames tree here rest
      else if part = [46, 46] then followNames tree here.dropLast rest
      else if nameLimit < part.length then .error .nameTooLong
      else match tree.entry? (here ++ [part]) with
        | none => .error .notFound
        | some (.link target) => .ok (.atLink here target rest)
        | some _ => followNames tree (here ++ [part]) rest
    | none => .error .notFound
    | some _ => .error .notDirectory

/-- Parts of a path are followed from `here` through at most `links` links. -/
def follow (tree : FileTree) :
    (links : Nat) → (here : Location) → List Bytes → Except SystemError Location
  | links, here, todo =>
    match tree.followNames here todo with
    | .error err => .error err
    | .ok (.arrived location) => .ok location
    | .ok (.atLink here target rest) =>
      match links with
      | 0 => .error .tooManyLinks
      | links + 1 =>
        follow tree links (if startsAtRoot target then [] else here) (parts target ++ rest)

/-- The location that a path leads to from the directory `here`.  Links at its end are followed
too. -/
def resolve (tree : FileTree) (here : Location) (path : Bytes) : Except SystemError Location :=
  if path.contains 0 then .error .nulInPath
  else if path = [] then .error .notFound
  else if pathLimit ≤ path.length then .error .nameTooLong
  else follow tree linkLimit (if startsAtRoot path then [] else here) (parts path)

/-- The entry that a path leads to. -/
def resolveEntry (tree : FileTree) (here : Location) (path : Bytes) : Except SystemError Entry :=
  match tree.resolve here path with
  | .error err => .error err
  | .ok location =>
    match tree.entry? location with
    | some entry => .ok entry
    | none => .error .notFound

/-- A path leads to a regular file. -/
def isFile (tree : FileTree) (here : Location) (path : Bytes) : Bool :=
  match tree.resolveEntry here path with
  | .ok (.file _ _) => true
  | _ => false

/-- The owner of a file may execute it. -/
def isExecutableMode (mode : Nat) : Bool := mode &&& 0o100 != 0

/-- A path leads to a regular file that may be executed. -/
def isExecutable (tree : FileTree) (here : Location) (path : Bytes) : Bool :=
  match tree.resolveEntry here path with
  | .ok (.file _ mode) => isExecutableMode mode
  | _ => false

/-- The names in the directory that a path leads to. -/
def list (tree : FileTree) (here : Location) (path : Bytes) : Except SystemError (List Bytes) :=
  match tree.resolve here path with
  | .error err => .error err
  | .ok location =>
    match tree.entry? location with
    | some .directory =>
      if tree.isReadable location then .ok (tree.names location) else .error .permissionDenied
    | some _ => .error .notDirectory
    | none => .error .notFound

/-- The bytes of the file that a path leads to. -/
def read (tree : FileTree) (here : Location) (path : Bytes) : Except SystemError Bytes :=
  match tree.resolveEntry here path with
  | .error err => .error err
  | .ok (.file content mode) =>
    if isReadableMode mode then .ok content.image else .error .permissionDenied
  | .ok _ => .error .isDirectory

/-- A path continued by a name. -/
def joinName (path name : Bytes) : Bytes :=
  if path.getLast? = some separator then path ++ name else path ++ separator :: name

/-- The directory that the parts lead to from `here`, made where it is missing. -/
def makeDirectories (tree : FileTree) (here : Location) : List Bytes → FileTree × Location
  | [] => (tree, here)
  | part :: rest =>
    match tree.follow linkLimit here [part] with
    | .ok location => makeDirectories tree location rest
    | .error _ => makeDirectories (tree.set (here ++ [part]) .directory) (here ++ [part]) rest

/-- The tree after `entry` was put at a path, with the directories on the way. -/
def place (tree : FileTree) (here : Location) (path : Bytes) (entry : Entry) : FileTree :=
  let start := if startsAtRoot path then [] else here
  match ((parts path).filter (· ≠ [])).getLast?, ((parts path).filter (· ≠ [])).dropLast with
  | none, _ => tree
  | some name, before =>
    let (tree', parent) := tree.makeDirectories start before
    if name = [46] then tree' else tree'.set (parent ++ [name]) entry

end FileTree
end TestBench
