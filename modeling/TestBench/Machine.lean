/-
# A machine before anything is put on it

The directory `/bin` holds the standard tools, and is where programs are searched.
-/

import TestBench.Host
import TestBench.Launch

namespace TestBench
namespace Machine

/-- The standard tools and their names. -/
def tools : List (Text × Program.Tool) :=
  [("sh".toList, .shell), ("true".toList, .succeed), ("false".toList, .fail), ("echo".toList, .echo),
    ("printf".toList, .printf), ("test".toList, .test), ("[".toList, .test),
    ("sleep".toList, .sleep), ("mkdir".toList, .makeDirectory), ("chmod".toList, .changeMode)]

/-- The directory of the standard tools. -/
def toolDir : Text := "/bin".toList

/-- The files of the machine. -/
def tree : FileTree :=
  tools.foldl (fun tree (name, tool) =>
    tree.place [] (Utf8.encode (Path.join toolDir name)) (.file (.tool tool) 0o755)) .empty

/-- The variables of the machine. -/
def environment : Program.Block := .ofPairs [(Launch.searchPath, Utf8.encode toolDir)]

/-- A host on the machine: `place` is the working directory, made where it is missing. -/
def host (processors : Nat) (place : Location) : Host :=
  { tree := (tree.makeDirectories [] place).1, here := place, environment, processors }

end Machine
end TestBench
