/-
# Binary floating-point numbers of 53 bits

The non-negative finite numbers of the 64-bit format: `mantissa · 2 ^ exponent` with a mantissa below
`2 ^ 53` and an exponent of at least `-1074`.  All arithmetic is exact arithmetic on ratios of natural
numbers, followed by one rounding to the nearest number of the format, ties to the even mantissa.
-/

import TestBench.Numeric.Rounding

namespace TestBench
namespace Numeric

/-- A non-negative finite number `mantissa · 2 ^ exponent`. -/
structure Binary64 where
  mantissa : Nat
  exponent : Int
  deriving DecidableEq, Repr

namespace Binary64

/-- The least exponent of the format. -/
def minExponent : Int := -1074

/-- Mantissas are below this bound, `2 ^ 53`. -/
def mantissaBound : Nat := 0x20000000000000

/-- The numerator of the number as a ratio. -/
def num (x : Binary64) : Nat := x.mantissa * Nat.pow 2 x.exponent.toNat

/-- The denominator of the number as a ratio, a power of two. -/
def den (x : Binary64) : Nat := Nat.pow 2 (-x.exponent).toNat

/-- `num / den · 2 ^ (-e)` as a ratio. -/
def scaled (num den : Nat) (e : Int) : Nat × Nat := (num * Nat.pow 2 (-e).toNat, den * Nat.pow 2 e.toNat)

/-- The greatest `k` with `2 ^ k ≤ num / den`, for positive `num` and `den`. -/
def binaryLog (num den : Nat) : Int :=
  let k : Int := (num.log2 : Int) - den.log2
  let (n, d) := scaled num den k
  if d ≤ n then k else k - 1

/-- The number of the format nearest to `num / den`. -/
def ofRatio (num den : Nat) : Binary64 :=
  if num = 0 then { mantissa := 0, exponent := minExponent }
  else
    let e := max minExponent (binaryLog num den - 52)
    let (n, d) := scaled num den e
    let m := roundHalfEven n d
    if m < mantissaBound then { mantissa := m, exponent := e }
    else { mantissa := m / 2, exponent := e + 1 }

/-- The number nearest to a natural number. -/
def ofNat (n : Nat) : Binary64 := ofRatio n 1

/-- The sum, rounded. -/
def add (x y : Binary64) : Binary64 := ofRatio (x.num * y.den + y.num * x.den) (x.den * y.den)

/-- The quotient, rounded. -/
def div (x y : Binary64) : Binary64 := ofRatio (x.num * y.den) (x.den * y.num)

/-- The number is greater than `n`. -/
def exceeds (x : Binary64) (n : Nat) : Bool := n * x.den < x.num

/-- The largest natural number that is not greater. -/
def floor (x : Binary64) : Nat := x.num / x.den

/-- What remains of the number beyond the last multiple of `n`, as a numerator over its own
denominator. -/
def remainder (x : Binary64) (n : Nat) : Nat := x.num % (n * x.den)

/-- The number is beyond the finite range. -/
def isInfinite (x : Binary64) : Bool := 971 < x.exponent

end Binary64
end Numeric
end TestBench
