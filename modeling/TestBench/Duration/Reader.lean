/-
# Reading durations

A duration is written as amounts of units that are added up, as in `1h 30m` or `2.5s`.

| what | how |
| --- | --- |
| amount | digits, a decimal fraction or none, the name of a unit |
| blanks | anywhere but inside of a name |
| next amount | its first digit may follow the name at once |

All numbers have 64 bits.  A fraction must come out whole in the smaller unit that it is counted in.
A lone `0` needs no unit.
-/

import TestBench.Duration.Units
import TestBench.Text.Blank

namespace TestBench
namespace Duration

/-- Numbers are below this bound, `2 ^ 64`. -/
def numberBound : Nat := 0x10000000000000000

/-- `n`, if it has 64 bits. -/
def bounded? (n : Nat) : Option Nat := if n < numberBound then some n else none

/-- `numerator / denominator`, for a power of ten. -/
structure Fraction where
  numerator : Nat
  denominator : Nat
  deriving DecidableEq, Repr

namespace Fraction

/-- The fraction before its first digit. -/
def start : Fraction := { numerator := 0, denominator := 1 }

/-- The fraction with one more digit. -/
def push? (f : Fraction) (digit : Nat) : Option Fraction :=
  match bounded? (10 * f.denominator), bounded? (10 * f.numerator + digit) with
  | some denominator, some numerator => some { numerator, denominator }
  | _, _ => none

/-- The part of `length` that the fraction is, if it is whole. -/
def of? (f : Fraction) (length : Nat) : Option Nat :=
  match bounded? (f.numerator * length) with
  | some product =>
    if product % f.denominator = 0 then some (product / f.denominator) else none
  | none => none

end Fraction

/-- `d` and `seconds` and `nanoseconds` more. -/
def extend? (d : Duration) (seconds nanoseconds : Nat) : Option Duration :=
  match bounded? (d.nanoseconds + nanoseconds) with
  | none => none
  | some nanos =>
    match bounded? (d.seconds + seconds + nanos / nanosPerSecond) with
    | none => none
    | some secs => some { seconds := secs, nanoseconds := nanos % nanosPerSecond }

/-- An amount: a whole number, a fraction or none, and the name of a unit. -/
structure Amount where
  whole : Nat
  fraction : Option Fraction
  name : Text
  deriving DecidableEq, Repr

namespace Amount

/-- `d` and `whole` units more. -/
def addWhole? (d : Duration) (whole : Nat) (unit : TimeUnit) : Option Duration :=
  let (seconds, nanoseconds) := unit.length
  match bounded? (whole * seconds), bounded? (whole * nanoseconds) with
  | some seconds, some nanoseconds => d.extend? seconds nanoseconds
  | _, _ => none

/-- `d` and a fraction of a unit more. -/
def addFraction? (d : Duration) (unit : TimeUnit) : Option Fraction → Option Duration
  | none => some d
  | some f =>
    match unit.fractionLength? with
    | none => none
    | some (seconds, nanoseconds) =>
      match f.of? seconds, f.of? nanoseconds with
      | some seconds, some nanoseconds => d.extend? seconds nanoseconds
      | _, _ => none

/-- `d` and the amount more. -/
def addTo? (d : Duration) (amount : Amount) : Option Duration :=
  match TimeUnit.ofName? amount.name with
  | none => none
  | some unit => (addWhole? d amount.whole unit).bind fun d => addFraction? d unit amount.fraction

end Amount

/-- Where the reader of a duration stands. -/
inductive Place where
  /-- Before an amount. -/
  | between
  /-- In the whole number of an amount. -/
  | whole (n : Nat)
  /-- In the fraction of an amount. -/
  | fraction (n : Nat) (f : Fraction)
  /-- In the name of the unit, which is given last character first. -/
  | name (n : Nat) (f : Option Fraction) (name : Text)
  deriving DecidableEq, Repr

/-- A character of the names of units. -/
def isUnitLetter (c : Char) : Bool := c.isAlpha || c = 'µ'

namespace Place

/-- The place behind the next character, and the amount that the character ends. -/
def step? (place : Place) (c : Char) : Option (Place × Option Amount) :=
  match place with
  | between =>
    if Decimal.isDigit c then some (whole (Decimal.digitValue c), none)
    else if Text.isBlank c then some (between, none)
    else none
  | whole n =>
    if Decimal.isDigit c then (bounded? (10 * n + Decimal.digitValue c)).map (whole ·, none)
    else if Text.isBlank c then some (whole n, none)
    else if isUnitLetter c then some (name n none [c], none)
    else if c = '.' then some (fraction n .start, none)
    else none
  | fraction n f =>
    if Decimal.isDigit c then (f.push? (Decimal.digitValue c)).map (fraction n ·, none)
    else if Text.isBlank c then some (fraction n f, none)
    else if isUnitLetter c ∧ f ≠ Fraction.start then some (name n (some f) [c], none)
    else none
  | name n f word =>
    if Decimal.isDigit c then
      some (whole (Decimal.digitValue c), some { whole := n, fraction := f, name := word.reverse })
    else if Text.isBlank c then some (between, some { whole := n, fraction := f, name := word.reverse })
    else if isUnitLetter c then some (name n f (c :: word), none)
    else none

end Place

/-- The amounts from a place on. -/
def amountsFrom? : Place → Text → Option (List Amount)
  | .between, [] => some []
  | .name n f word, [] => some [{ whole := n, fraction := f, name := word.reverse }]
  | _, [] => none
  | place, c :: s =>
    match place.step? c with
    | none => none
    | some (place', amount?) => (amountsFrom? place' s).map (amount?.toList ++ ·)

/-- The sum of amounts. -/
def sum? : Duration → List Amount → Option Duration
  | d, [] => some d
  | d, amount :: rest => (amount.addTo? d).bind fun d => sum? d rest

/-- No time. -/
def zero : Duration := { seconds := 0, nanoseconds := 0 }

/-- The duration that a text describes. -/
def ofText? (text : Text) : Option Duration :=
  if text = "0".toList then some zero
  else match amountsFrom? .between text with
    | none | some [] => none
    | some amounts => sum? zero amounts

end Duration
end TestBench
