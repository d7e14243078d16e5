/-
# Starting programs

A program is started by its name, with arguments and variables, in a working directory.

| name | leads to |
| --- | --- |
| empty | nothing |
| with a slash | the file at that path |
| any other | the first file of that name in the directories of `PATH` |

The file has to be executable.  A script is handed to the interpreter that its first line names; a file
that is neither a script nor a program cannot be started.
-/

import TestBench.Shell.Interpreter

namespace TestBench
namespace Launch

open Program Shell

/-- The content of the executable file at a path. -/
def executable (tree : FileTree) (here : Location) (path : Bytes) : Except SystemError Content :=
  match tree.resolveEntry here path with
  | .error err => .error err
  | .ok (.file content mode) =>
    if FileTree.isExecutableMode mode then .ok content else .error .permissionDenied
  | .ok _ => .error .permissionDenied

/-- The path of the first executable `name` in the directories, an empty one of which is the working
directory.  Files that may not be executed are passed over, but remembered. -/
def search (tree : FileTree) (here : Location) (name : Bytes) (denied : Bool) :
    List Bytes → Except SystemError (Bytes × Content)
  | [] => .error (if denied then .permissionDenied else .notFound)
  | directory :: rest =>
    let path := if directory = [] then name else directory ++ FileTree.separator :: name
    match executable tree here path with
    | .ok content => .ok (path, content)
    | .error .permissionDenied => search tree here name true rest
    | .error .notFound | .error .notDirectory => search tree here name denied rest
    | .error err => .error err

/-- The variable with the directories that are searched. -/
def searchPath : Bytes := Utf8.encode "PATH".toList

/-- The byte between two of these directories, `:`. -/
def separator : UInt8 := 58

/-- The path and the content of the program called `name`. -/
def find (tree : FileTree) (here : Location) (env : Block) (name : Text) :
    Except SystemError (Bytes × Content) :=
  let bytes := Utf8.encode name
  if name = [] then .error .notFound
  else if name.contains '/' then (executable tree here bytes).map (bytes, ·)
  else if FileTree.nameLimit < bytes.length then .error .nameTooLong
  else search tree here bytes false (splitAll (· == separator) ((env.seen? searchPath).getD []))

/-- A blank of the first line of a script. -/
def isGap (b : UInt8) : Bool := b = 32 || b = 9

/-- The interpreter that the first line of a script names, and the argument behind it. -/
def interpreter? (content : Bytes) : Option (Text × Option Text) :=
  match content with
  | 35 :: 33 :: rest =>
    let line := (rest.takeWhile (· != 10)).dropWhile isGap
    let path := line.takeWhile fun b => !isGap b
    let argument := (((line.drop path.length).dropWhile isGap).reverse.dropWhile isGap).reverse
    if path = [] then none
    else some (Utf8.decodeLossy path,
      if argument = [] then none else some (Utf8.decodeLossy argument))
  | _ => none

/-- A text that cannot be handed to a program. -/
def hasNul (text : Text) : Bool := text.contains (Char.ofNat 0)

/-- A deed as the course of a program. -/
def ofDeed (deed : Deed) : Performance × FileTree :=
  ({ acts := deed.acts, exit := .ofCode deed.status, keepsOpen := false }, deed.tree)

/-- A program started, with at most `depth` programs one inside the other. -/
def startWithin : (depth : Nat) → Launcher
  | 0, _, _, _, _, _ => .error .tooManyLinks
  | depth + 1, tree, here, env, name, args =>
    if hasNul name || args.any hasNul || env.hasNul then .error .nulInArgument
    else match find tree here env name with
      | .error err => .error err
      | .ok (path, content) =>
        match content with
        | .program recipe => .ok (recipe.perform env, tree)
        | .tool .shell => .ok (Shell.run (startWithin depth) tree here env name args)
        | .tool tool => .ok (ofDeed (runTool tool (name ++ ": ".toList) tree here args))
        | .bytes content =>
          match interpreter? content with
          | none => .error .badExecutable
          | some (interpreter, argument) =>
            startWithin depth tree here env interpreter (argument.toList ++ Utf8.decodeLossy path :: args)

/-- How many programs may run one inside the other. -/
def depthLimit : Nat := 64

/-- A program started. -/
def start : Launcher := startWithin depthLimit

end Launch
end TestBench
