/-
# Floating-point numbers with signs

The numbers of the 64-bit format with their signs, the two infinities and the one value that is no
number.

Texts of finite numbers have the fewest digits that read back and are never in scientific notation.
Whole numbers are written without a point, or with `.0`, as the place asks for.
-/

import TestBench.Numeric.Shortest

namespace TestBench
namespace Numeric

/-- A floating-point number. -/
inductive FloatNumber where
  | nan
  | infinite (negative : Bool)
  | finite (negative : Bool) (magnitude : Binary64)
  deriving DecidableEq, Repr

namespace FloatNumber

/-- Texts longer than this before or behind the point stand for numbers out of range. -/
def decimalRange : Int := 400

/-- The number nearest to `digits · 10 ^ exponent` with a sign. -/
def ofScientific (negative : Bool) (s : Scientific) : FloatNumber :=
  let places : Int := (Decimal.write s.digits).length + s.exponent
  if s.digits = 0 ∨ places < -decimalRange then finite negative (Binary64.ofNat 0)
  else if decimalRange < places then infinite negative
  else
    let magnitude := s.toBinary64
    if magnitude.isInfinite then infinite negative else finite negative magnitude

/-- The number is zero, of either sign. -/
def isZero : FloatNumber → Bool
  | finite _ magnitude => magnitude.mantissa = 0
  | _ => false

/-- A sign before a text. -/
def signed (negative : Bool) (text : Text) : Text := if negative then '-' :: text else text

/-- The text of a number, with `.0` for a whole number if `pointed`. -/
def writeWith (pointed : Bool) : FloatNumber → Text
  | nan => "NaN".toList
  | infinite negative => signed negative "inf".toList
  | finite negative magnitude =>
    let s := magnitude.shortest
    signed negative (s.write ++ if pointed ∧ !s.hasPoint then ".0".toList else [])

/-- The text of a number, whole numbers without a point. -/
def write (x : FloatNumber) : Text := writeWith false x

/-- The text of a number, always with a point. -/
def writePointed (x : FloatNumber) : Text := writeWith true x

end FloatNumber
end Numeric
end TestBench
