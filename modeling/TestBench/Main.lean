/-
# The program

The files below the working directory are read, the command line is answered, and the answer is put
out.  A file counts as executable if it begins like a script.
-/

import TestBench.Cli.Startup
import TestBench.Machine

namespace TestBench
namespace Program

/-- The entry for a file with this content. -/
def fileEntry (content : Bytes) : Entry :=
  .file (.bytes content) (if (Launch.interpreter? content).isSome then 0o755 else 0o644)

/-- The tree with the files of a directory that is at `location`; directories more than `depth` levels
down are left empty. -/
def readDirectory : (depth : Nat) → IO.FS.DirEntry → Location → FileTree → IO FileTree
  | 0, _, _, tree => return tree
  | depth + 1, directory, location, tree => do
    let mut tree := tree
    for child in ← directory.path.readDir do
      let place := location ++ [Utf8.encode child.fileName.toList]
      if ← child.path.isDir then
        tree ← readDirectory depth child place (tree.set place .directory)
      else
        tree := tree.set place (fileEntry (← IO.FS.readBinFile child.path).toList)
    return tree

/-- How many directories may lie one inside the other. -/
def depthLimit : Nat := 64

/-- The variables that matter to the program and to sanitizers. -/
def variableNames : List String :=
  ["KTEST_LOG", "KTEST_TEST_THREADS", "CARGO_TERM_COLOR", "ASAN_OPTIONS", "UBSAN_OPTIONS",
    "LSAN_OPTIONS", "TSAN_OPTIONS", "MSAN_OPTIONS"]

/-- The environment with those variables that are set. -/
def readVariables (env : Block) : IO Block :=
  variableNames.foldlM (fun env name => do
    match ← IO.getEnv name with
    | some value => return env.set (Utf8.encode name.toList) (Utf8.encode value.toList)
    | none => return env) env

/-- How many processors the program assumes. -/
def processors : Nat := 4

end Program
end TestBench

open TestBench in
/-- Answers the command line. -/
def main (arguments : List String) : IO UInt32 := do
  let cwd ← IO.currentDir
  let path := Utf8.encode cwd.toString.toList
  let here := (FileTree.parts path).filter (· ≠ [])
  let host := Machine.host Program.processors here
  let tree ← Program.readDirectory Program.depthLimit { root := cwd, fileName := "." } here host.tree
  let environment ← Program.readVariables host.environment
  let answer := Cli.Startup.answer
    { host := { host with tree, environment }, path, sink := .unbounded } (arguments.map String.toList)
  (← IO.getStdout).write ⟨answer.stdout.toArray⟩
  (← IO.getStderr).write ⟨answer.stderr.toArray⟩
  return UInt32.ofNat answer.exitCode
