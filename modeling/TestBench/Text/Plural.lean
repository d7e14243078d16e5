/-
# Counted nouns

A noun stands in the singular behind the count one and in the plural behind every other count.
-/

import TestBench.Text.Basic

namespace TestBench
namespace Plural

/-- `one` behind the count one, `many` behind every other. -/
def choose (one many : Text) (count : Nat) : Text := if count = 1 then one else many

/-- Test binaries. -/
def binaries (count : Nat) : Text := choose "binary".toList "binaries".toList count

/-- Test cases. -/
def cases (count : Nat) : Text := choose "case".toList "cases".toList count

/-- Sanitizer variants. -/
def variants (count : Nat) : Text := choose "variant".toList "variants".toList count

end Plural
end TestBench
