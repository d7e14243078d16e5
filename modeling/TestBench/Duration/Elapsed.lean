/-
# Elapsed time

How long a run took, in seconds with two decimals, and in minutes and seconds beyond one minute.

The duration is first taken as a floating-point number of seconds; the decimals are those of that
number, rounded half to even.  The minutes come from its whole seconds, which saturate at `2^32 - 1`,
the seconds from its remainder.
-/

import TestBench.Duration.Basic
import TestBench.Numeric.Binary64

namespace TestBench
namespace Duration

open Numeric

/-- The duration as a floating-point number of seconds. -/
def toBinary64 (d : Duration) : Binary64 :=
  (Binary64.ofNat d.seconds).add
    ((Binary64.ofNat d.nanoseconds).div (Binary64.ofNat nanosPerSecond))

/-- `num / den` with two decimals. -/
def twoDecimals (num den : Nat) : Text :=
  let hundredths := roundHalfEven (100 * num) den
  Decimal.write (hundredths / 100) ++ '.' :: Decimal.padZeros 2 (Decimal.write (hundredths % 100))

/-- The greatest number of whole seconds that minutes are taken from, `2 ^ 32 - 1`. -/
def wholeSecondsLimit : Nat := 0xFFFFFFFF

/-- The text of an elapsed time. -/
def elapsedText (d : Duration) : Text :=
  let x := d.toBinary64
  if x.exceeds 60 then
    Decimal.write (min x.floor wholeSecondsLimit / 60) ++ "m ".toList
      ++ twoDecimals (x.remainder 60) x.den ++ "s".toList
  else twoDecimals x.num x.den ++ "s".toList

end Duration
end TestBench
