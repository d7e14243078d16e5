/-
# Finding test binaries

The test binaries of a build directory are the regular files below it that may be executed and whose
name matches a pattern.  Links are followed.

| a finding of the walk | what becomes of it |
| --- | --- |
| a file whose name is not text, or does not match | nothing |
| a file whose path is not text | a warning |
| a file that may not be executed | nothing |
| any other file | a test binary, under the path that the walk took |
| a fault or a loop | a warning |

A build directory that does not exist holds no binaries; one that cannot be read is an error.
-/

import TestBench.FileTree.Walk
import TestBench.Glob.NamePattern
import TestBench.Log.Event

namespace TestBench
namespace Discovery

/-- A build directory that cannot be read. -/
structure DiscoveryError where
  root : Text
  cause : SystemError
  deriving DecidableEq, Repr

/-- What is said of a build directory that cannot be read. -/
def DiscoveryError.message (err : DiscoveryError) : Text :=
  "error reading build directory ".toList ++ Text.quoted err.root

/-- The warning that something below a build directory was passed over. -/
def skipping (reason : Text) : Log.Event :=
  { level := .warn, target := .discovery
    message := "skipping entry while walking build directory: ".toList ++ reason }

/-- The warning of a fault. -/
def faultEvent (path : Bytes) (err : SystemError) : Log.Event :=
  skipping ("IO error for operation on ".toList ++ Utf8.decodeLossy path ++ ": ".toList
    ++ err.message)

/-- The warning of a loop. -/
def loopEvent (path ancestor : Bytes) : Log.Event :=
  skipping ("File system loop found: ".toList ++ Utf8.decodeLossy path
    ++ " points to an ancestor ".toList ++ Utf8.decodeLossy ancestor)

/-- The warning of a path that is not text. -/
def notTextEvent (path : Bytes) : Log.Event :=
  { level := .warn, target := .discovery
    message := "skipping non-UTF-8 path ".toList ++ Text.quoted (Utf8.decodeLossy path) }

/-- The name is text and matches. -/
def nameMatches (pattern : Glob.NamePattern) (name : Bytes) : Bool :=
  match Utf8.toText? name with
  | some name => pattern.isMatch name
  | none => false

/-- The test binary that a finding is, and what is logged of it. -/
def judge (tree : FileTree) (here : Location) (pattern : Glob.NamePattern) :
    FileTree.Finding → Option Text × List Log.Event
  | .fault path err => (none, [faultEvent path err])
  | .loop path ancestor => (none, [loopEvent path ancestor])
  | .file path name =>
    if nameMatches pattern name then
      match Utf8.toText? path with
      | none => (none, [notTextEvent path])
      | some shown => (if tree.isExecutable here path then some shown else none, [])
    else (none, [])

/-- The test binaries below a build directory, in the order of the walk, and what is logged. -/
def discover (tree : FileTree) (here : Location) (pattern : Glob.NamePattern) (root : Text) :
    Except DiscoveryError (List Text) × List Log.Event :=
  match tree.walk here (Utf8.encode root) with
  | .error .notFound =>
    (.ok [], [{ level := .debug, target := .discovery
                message := "build directory ".toList ++ Text.quoted root
                  ++ " does not exist, nothing to test".toList }])
  | .error cause => (.error { root, cause }, [])
  | .ok findings =>
    let judged := findings.map (judge tree here pattern)
    (.ok (judged.filterMap Prod.fst), judged.flatMap Prod.snd)

end Discovery
end TestBench
