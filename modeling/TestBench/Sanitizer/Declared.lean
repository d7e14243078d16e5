/-
# Declared variants

The variants that the entries of a directory declare, each once and in ascending order.  A directory
that does not exist declares none; one that cannot be read is an error.  An entry whose name is not
text declares nothing and is warned of.
-/

import TestBench.FileTree.Resolve
import TestBench.Log.Event
import TestBench.Sanitizer.Variant

namespace TestBench
namespace Sanitizer

/-- A directory of variant declarations that cannot be read. -/
structure VariantsError where
  dir : Text
  cause : SystemError
  deriving DecidableEq, Repr

/-- What is said of a directory of variant declarations that cannot be read. -/
def VariantsError.message (err : VariantsError) : Text :=
  "error reading sanitizer variants from ".toList ++ Text.quoted err.dir

/-- The warning of an entry whose name is not text. -/
def notTextEvent (dir : Text) (name : Bytes) : Log.Event :=
  { level := .warn, target := .sanitizer
    message := "skipping non-UTF-8 entry ".toList ++ Text.quoted (Utf8.decodeLossy name)
      ++ " in ".toList ++ Text.quoted dir }

/-- The variants that entries of these names declare. -/
def declared (names : List Bytes) : List Text :=
  Text.sortedSet (names.filterMap fun name => (Utf8.toText? name).bind declaredBy?)

/-- The warnings that entries of these names give cause to. -/
def warnings (dir : Text) (names : List Bytes) : List Log.Event :=
  (names.filter fun name => (Utf8.toText? name).isNone).map (notTextEvent dir)

/-- The variants that a directory declares, and what is logged. -/
def variants (tree : FileTree) (here : Location) (dir : Text) :
    Except VariantsError (List Text) × List Log.Event :=
  match tree.list here (Utf8.encode dir) with
  | .error .notFound =>
    (.ok [], [{ level := .debug, target := .sanitizer
                message := "variants directory ".toList ++ Text.quoted dir
                  ++ " does not exist".toList }])
  | .error cause => (.error { dir, cause }, [])
  | .ok names => (.ok (declared names), warnings dir names)

end Sanitizer
end TestBench
