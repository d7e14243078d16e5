/-
# Paths

A path is a text; its components are what stands between its slashes.

| component | written | kept |
| --- | --- | --- |
| root | a slash at the start | yes |
| current | `.` | only as the first component of a relative path |
| parent | `..` | yes |
| name | anything else | yes |

Empty components (of doubled and final slashes) vanish.  Paths are compared by their components.
-/

import TestBench.Text.Basic

namespace TestBench
namespace Path

/-- A part of a path. -/
inductive Component where
  | root
  | current
  | parent
  | name (text : Text)
  deriving DecidableEq, Repr

namespace Component

/-- What is written for a component. -/
def text : Component → Text
  | root => "/".toList
  | current => ".".toList
  | parent => "..".toList
  | name text => text

/-- The component that a part between slashes is, if it counts behind the first one. -/
def ofPart? (part : Text) : Option Component :=
  if part = [] ∨ part = ".".toList then none
  else if part = "..".toList then some parent
  else some (name part)

end Component

/-- A path that starts at the root. -/
def isAbsolute (path : Text) : Bool := path.head? = some '/'

/-- The parts of a path between its slashes. -/
def parts (path : Text) : List Text := splitAll (· = '/') path

/-- The components of a path. -/
def components (path : Text) : List Component :=
  let inner := (parts path).filterMap Component.ofPart?
  if isAbsolute path then .root :: inner
  else if (parts path).head? = some ".".toList then .current :: inner
  else inner

/-- `path` taken from the directory `base`: an absolute path stays as it is. -/
def join (base path : Text) : Text :=
  if isAbsolute path ∨ base = [] then path
  else if base.getLast? = some '/' then base ++ path
  else base ++ '/' :: path

/-- The text of components that do not hold the root: a slash between each two. -/
def write (components : List Component) : Text := joinWith "/".toList (components.map Component.text)

/-- The components that lead from `base` to `path`, once both have a component that differs or one is
used up; `none` where `base` climbs above what is known of it.  `started` tells that some component
has been written. -/
def leadFrom? : (started : Bool) → (path base : List Component) → Option (List Component)
  | _, [], [] => some []
  | _, a :: path, [] => some (a :: path)
  | _, [], _ :: base => (leadFrom? true [] base).map (.parent :: ·)
  | started, a :: path, b :: base =>
    if started = false ∧ a = b then leadFrom? false path base
    else if b = .current then (leadFrom? true path base).map (a :: ·)
    else if b = .parent then none
    else some (List.replicate (base.length + 1) .parent ++ a :: path)

/-- The path that leads from the directory `base` to `path`.  An absolute path is its own answer if
`base` is relative; there is none the other way round. -/
def relative? (path base : Text) : Option Text :=
  if isAbsolute path = isAbsolute base then
    (leadFrom? false (components path) (components base)).map write
  else if isAbsolute path then some path
  else none

/-- `path` as it is shown: from `base` if it lies below it, otherwise unchanged. -/
def display (path : Text) (base? : Option Text) : Text :=
  match base?.bind (relative? path) with
  | none => path
  | some shown =>
    if shown = [] ∨ (components shown).head? = some .parent then path else shown

example : display "/w//build/./a".toList (some "/w/".toList) = "build/a".toList := by decide

example : display "/w/a".toList (some "/w/src".toList) = "/w/a".toList := by decide

end Path
end TestBench
