/-
# Sanitizer variants

A variant is a separately built copy of the test binaries.  The entry of a directory declares a
variant if its name begins with `tests_san_`: the variant's name is what follows, up to the first dot,
and must not be empty.  The binaries of a variant are expected under the build directory, in the
directory of the same name without extension.
-/

import TestBench.Path

namespace TestBench
namespace Sanitizer

/-- How the names of variant declarations and variant trees begin. -/
def nameStart : Text := "tests_san_".toList

/-- The variant that a directory entry of this name declares. -/
def declaredBy? (name : Text) : Option Text :=
  match dropHead? nameStart name with
  | none => none
  | some rest =>
    let variant := rest.takeWhile (· != '.')
    if variant = [] then none else some variant

/-- The directory of a variant's binaries. -/
def tree (buildDir variant : Text) : Text := Path.join buildDir (nameStart ++ variant)

end Sanitizer
end TestBench
