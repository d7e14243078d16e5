/-
# Numbers and words of TOML

What the unquoted texts of TOML values mean.

| form | value |
| --- | --- |
| `true`, `false` | a boolean |
| `42`, `-17`, `1_000` | an integer; no zeros before other digits |
| `0xdead_beef`, `0o17`, `0b101` | an integer without sign |
| `1.5`, `-2e10`, `6.0e-3` | a floating-point number; digits on both sides of the point |
| `inf`, `nan` with or without a sign | a floating-point number |
| a date, a time, or both | a moment |

An underscore may stand between two digits.  Integers have 64 bits with sign, and floating-point
numbers other than `inf` are finite.
-/

import TestBench.Toml.Value

namespace TestBench
namespace Toml

/-- Digits with single underscores between them, without the underscores; `open_` tells that a digit
must come next. -/
def plainDigits? (isDigit : Char → Bool) : (open_ : Bool) → Text → Option Text
  | open_, [] => if open_ then none else some []
  | open_, c :: s =>
    if isDigit c then (plainDigits? isDigit false s).map (c :: ·)
    else if c = '_' ∧ open_ = false then plainDigits? isDigit true s
    else none

/-- The digits of a decimal number as a text writes them. -/
def decimalDigits? (s : Text) : Option Text := plainDigits? Decimal.isDigit true s

/-- The digits of a decimal number that has no zeros before other digits. -/
def wholeDigits? (s : Text) : Option Text :=
  (decimalDigits? s).filter fun digits => digits.length = 1 || digits.head? != some '0'

/-- The value of a digit in any base up to sixteen. -/
def baseDigit (c : Char) : Nat :=
  if Decimal.isDigit c then Decimal.digitValue c
  else if 'a' ≤ c ∧ c ≤ 'f' then c.toNat - 87
  else if 'A' ≤ c ∧ c ≤ 'F' then c.toNat - 55
  else 16

/-- The number that a text writes in a base. -/
def inBase? (base : Nat) (s : Text) : Option Nat :=
  (plainDigits? (fun c => baseDigit c < base) true s).map fun digits =>
    digits.foldl (fun n c => base * n + baseDigit c) 0

/-- Integers are below this bound, `2 ^ 63`, and not below its negative. -/
def integerBound : Int := 0x8000000000000000

/-- `n`, if it has 64 bits. -/
def boundedInteger? (n : Int) : Option Int :=
  if -integerBound ≤ n ∧ n < integerBound then some n else none

/-- A sign, if the text begins with one, and the text behind it: `true` for minus. -/
def splitSign : Text → Option Bool × Text
  | '+' :: s => (some false, s)
  | '-' :: s => (some true, s)
  | s => (none, s)

/-- The integer that a text writes. -/
def integer? (s : Text) : Option Int :=
  match s with
  | '0' :: 'x' :: digits => ((inBase? 16 digits).map Int.ofNat).bind boundedInteger?
  | '0' :: 'o' :: digits => ((inBase? 8 digits).map Int.ofNat).bind boundedInteger?
  | '0' :: 'b' :: digits => ((inBase? 2 digits).map Int.ofNat).bind boundedInteger?
  | s =>
    let (sign, digits) := splitSign s
    ((wholeDigits? digits).map fun digits =>
      let n : Int := Decimal.appendDigits 0 digits
      if sign = some true then -n else n).bind boundedInteger?

/-- The exponent that a text writes. -/
def exponent? (s : Text) : Option Int :=
  let (sign, digits) := splitSign s
  (decimalDigits? digits).map fun digits =>
    let n : Int := Decimal.appendDigits 0 digits
    if sign = some true then -n else n

/-- The finite number with a whole part, a fraction and an exponent. -/
def finite? (negative : Bool) (whole fraction : Text) (exponent : Int) :
    Option Numeric.FloatNumber :=
  let digits := Decimal.appendDigits 0 (whole ++ fraction)
  match Numeric.FloatNumber.ofScientific negative
      { digits, exponent := exponent - fraction.length } with
  | .finite sign magnitude => some (.finite sign magnitude)
  | _ => none

/-- A text is cut at the sign of an exponent. -/
def splitExponent (s : Text) : Text × Option Text :=
  match splitAtFirst? (fun c => c = 'e' || c = 'E') s with
  | some (before, exponent) => (before, some exponent)
  | none => (s, none)

/-- The number without sign that a text writes with a point or an exponent. -/
def decimalNumber? (negative : Bool) (s : Text) : Option Numeric.FloatNumber :=
  let (mantissa, exponentText?) := splitExponent s
  match splitAtFirst? (· = '.') mantissa, exponentText? with
  | none, none => none
  | none, some exponentText =>
    match wholeDigits? mantissa, exponent? exponentText with
    | some whole, some exponent => finite? negative whole [] exponent
    | _, _ => none
  | some (whole, fraction), exponentText? =>
    match wholeDigits? whole, decimalDigits? fraction, (exponentText?.map exponent?).getD (some 0) with
    | some whole, some fraction, some exponent => finite? negative whole fraction exponent
    | _, _, _ => none

/-- The floating-point number that a text writes. -/
def float? (s : Text) : Option Numeric.FloatNumber :=
  let (sign, s) := splitSign s
  let negative := sign = some true
  if s = "inf".toList then some (.infinite negative)
  else if s = "nan".toList then some .nan
  else decimalNumber? negative s

/-- The value that an unquoted text means. -/
def scalarOfText? (s : Text) : Option Scalar :=
  if s = "true".toList then some (.boolean true)
  else if s = "false".toList then some (.boolean false)
  else match integer? s with
    | some n => some (.integer n)
    | none =>
      match float? s with
      | some x => some (.float x)
      | none => (Moment.ofText? s).map .moment

example : scalarOfText? "1_000".toList = some (.integer 1000) := by decide

example : scalarOfText? "01".toList = none := by decide

end Toml
end TestBench
