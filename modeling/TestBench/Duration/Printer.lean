/-
# Writing durations

A duration is written as amounts of ever smaller units, with blanks between them; units that it has
none of are left out.  Years, months and days are spelt out, with an `s` for more than one.  No time
at all is `0s`.
-/

import TestBench.Duration.Units

namespace TestBench
namespace Duration

/-- An amount of a unit that is spelt out. -/
def spelt (name : Text) (n : Nat) : Text :=
  if n = 0 then [] else Decimal.write n ++ name ++ (if 1 < n then "s".toList else [])

/-- An amount of a unit that is abbreviated. -/
def short (name : Text) (n : Nat) : Text := if n = 0 then [] else Decimal.write n ++ name

/-- The amounts of a duration, empty where it has none of a unit. -/
def amountTexts (d : Duration) : List Text :=
  let (years, inYear) := (d.seconds / 31557600, d.seconds % 31557600)
  let (months, inMonth) := (inYear / 2630016, inYear % 2630016)
  let (days, inDay) := (inMonth / 86400, inMonth % 86400)
  [spelt "year".toList years, spelt "month".toList months, spelt "day".toList days,
    short "h".toList (inDay / 3600), short "m".toList (inDay % 3600 / 60),
    short "s".toList (inDay % 60), short "ms".toList (d.nanoseconds / 1000000),
    short "us".toList (d.nanoseconds / 1000 % 1000), short "ns".toList (d.nanoseconds % 1000)]

/-- The text of a duration. -/
def write (d : Duration) : Text :=
  match d.amountTexts.filter (· ≠ []) with
  | [] => "0s".toList
  | amounts => joinWith " ".toList amounts

example : write { seconds := 5401, nanoseconds := 2000003 } = "1h 30m 1s 2ms 3ns".toList := by
  decide +kernel

end Duration
end TestBench
