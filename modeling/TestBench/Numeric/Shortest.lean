/-
# The shortest decimal that reads back

A decimal is a whole number of units of some power of ten.  The shortest decimal of a floating-point
number is one with the fewest digits among those that are rounded to the number; of these the nearest
one.

On the grid of the powers of ten `10 ^ e` only the two neighbours of the number can be nearest, so the
search tries the grids from the coarsest on which the number has a digit, one digit more at a time.
Seventeen digits always suffice.
-/

import TestBench.Numeric.Binary64
import TestBench.Text.Decimal

namespace TestBench
namespace Numeric

/-- The number `digits · 10 ^ exponent`. -/
structure Scientific where
  digits : Nat
  exponent : Int
  deriving DecidableEq, Repr

namespace Scientific

/-- The number as a ratio. -/
def ratio (s : Scientific) : Nat × Nat :=
  (s.digits * Nat.pow 10 s.exponent.toNat, Nat.pow 10 (-s.exponent).toNat)

/-- The floating-point number nearest to it. -/
def toBinary64 (s : Scientific) : Binary64 := Binary64.ofRatio s.ratio.1 s.ratio.2

/-- The number in positional notation. -/
def write (s : Scientific) : Text :=
  match s.exponent with
  | .ofNat e => Decimal.write (s.digits * Nat.pow 10 e)
  | .negSucc e =>
    let unit := Nat.pow 10 (e + 1)
    Decimal.write (s.digits / unit) ++ '.' :: Decimal.padZeros (e + 1) (Decimal.write (s.digits % unit))

/-- The same number in units of the next power of ten, if it is a whole number of them. -/
def coarser (s : Scientific) : Scientific :=
  if s.digits % 10 = 0 then { digits := s.digits / 10, exponent := s.exponent + 1 } else s

/-- The number has a fractional part as it is written. -/
def hasPoint (s : Scientific) : Bool := s.exponent < 0

end Scientific

namespace Binary64

/-- How many digits the numeral of `n` has. -/
def digitCount (n : Nat) : Nat := (Decimal.write n).length

/-- The greatest `e` with `10 ^ e ≤ num / den`, for positive `num` and `den`. -/
def decimalLog (num den : Nat) : Int :=
  if den ≤ num then (digitCount (num / den) : Int) - 1
  else
    let places := digitCount (den / num)
    if den ≤ num * Nat.pow 10 (places - 1) then 1 - (places : Int) else -(places : Int)

/-- The neighbours of `num / den` on the grid of `10 ^ e`, the nearer one first. -/
def neighbours (num den : Nat) (e : Int) : List Scientific :=
  let n := num * Nat.pow 10 (-e).toNat
  let d := den * Nat.pow 10 e.toNat
  let below : Scientific := { digits := n / d, exponent := e }
  let above : Scientific := { digits := n / d + 1, exponent := e }
  if 2 * (n % d) < d ∨ (2 * (n % d) = d ∧ n / d % 2 = 0) then [below, above] else [above, below]

/-- The shortest decimal among those on `grids` grids, from `10 ^ e` on to finer ones. -/
def shortestFrom (x : Binary64) : (grids : Nat) → (e : Int) → Option Scientific
  | 0, _ => none
  | grids + 1, e =>
    match (neighbours x.num x.den e).find? fun s => s.toBinary64 = x with
    | some s => some s
    | none => shortestFrom x grids (e - 1)

/-- The most digits that are tried. -/
def mostDigits : Nat := 17

/-- The shortest decimal that is rounded to the number.  The upper neighbour on the first grid may be
a power of ten, which the next coarser grid holds too. -/
def shortest (x : Binary64) : Scientific :=
  if x.mantissa = 0 then { digits := 0, exponent := 0 }
  else
    match shortestFrom x mostDigits (decimalLog x.num x.den) with
    | some s => s.coarser
    | none => { digits := 0, exponent := 0 }

end Binary64
end Numeric
end TestBench
