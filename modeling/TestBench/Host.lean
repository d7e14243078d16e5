/-
# The place where programs run

Programs are started among files, in a working directory and with variables that they inherit.
-/

import TestBench.FileTree.Resolve
import TestBench.Program.Environment

namespace TestBench

/-- What is around a program that is started. -/
structure Host where
  tree : FileTree
  /-- The working directory. -/
  here : Location
  /-- The variables that programs inherit. -/
  environment : Program.Block
  /-- The number of processors. -/
  processors : Nat
  deriving DecidableEq, Repr

end TestBench
