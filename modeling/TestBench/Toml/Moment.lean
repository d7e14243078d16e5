/-
# Dates and times

A date, a time of day, or both, and then perhaps an offset from universal time.

| part | written |
| --- | --- |
| date | `1979-05-27`, an existing day |
| time | `07:32`, `07:32:00` or `07:32:00.25` |
| between them | `T`, `t` or a space |
| offset | `Z`, `z`, `+05:30`, `-08:00` |

Nine digits of a fraction count.  A moment is written back in one form: `T` and `Z` in capitals, the
fraction without zeros at its end, but with at least one digit.
-/

import TestBench.Text.Decimal

namespace TestBench
namespace Toml

/-- A day of the calendar. -/
structure Date where
  year : Nat
  month : Nat
  day : Nat
  deriving DecidableEq, Repr

/-- A time of day. -/
structure Clock where
  hour : Nat
  minute : Nat
  second : Option Nat
  nanosecond : Option Nat
  deriving DecidableEq, Repr

/-- How far a time is from universal time. -/
inductive Offset where
  | universal
  | minutes (behind : Bool) (count : Nat)
  deriving DecidableEq, Repr

/-- A date, a time of day, or both with or without an offset. -/
inductive Moment where
  | date (date : Date)
  | clock (clock : Clock)
  | both (date : Date) (clock : Clock) (offset : Option Offset)
  deriving DecidableEq, Repr

/-- The number that the first `count` characters write, if they are digits, and what is behind. -/
def digits? (count : Nat) (s : Text) : Option (Nat × Text) :=
  let first := s.take count
  if first.length = count ∧ first.all Decimal.isDigit then
    some (Decimal.appendDigits 0 first, s.drop count)
  else none

/-- The number that the `count` characters behind `mark` write, and what is behind. -/
def digitsBehind? (mark : Char) (count : Nat) : Text → Option (Nat × Text)
  | [] => none
  | c :: s => if c = mark then digits? count s else none

namespace Date

/-- A year of 366 days. -/
def isLeap (year : Nat) : Bool := year % 4 = 0 && (year % 100 != 0 || year % 400 = 0)

/-- The days of a month. -/
def daysIn (year month : Nat) : Nat :=
  if month = 2 then (if isLeap year then 29 else 28)
  else if month = 4 ∨ month = 6 ∨ month = 9 ∨ month = 11 then 30
  else 31

/-- A day of the calendar. -/
def exists? (date : Date) : Bool :=
  1 ≤ date.month && date.month ≤ 12 && 1 ≤ date.day && date.day ≤ daysIn date.year date.month

/-- The date that a text begins with, and what is behind it. -/
def read? (s : Text) : Option (Date × Text) :=
  match digits? 4 s with
  | none => none
  | some (year, s) =>
    match digitsBehind? '-' 2 s with
    | none => none
    | some (month, s) =>
      match digitsBehind? '-' 2 s with
      | none => none
      | some (day, s) =>
        let date : Date := { year, month, day }
        if date.exists? then some (date, s) else none

/-- A date as it is written. -/
def write (date : Date) : Text :=
  Decimal.padZeros 4 (Decimal.write date.year) ++ '-' :: Decimal.padZeros 2 (Decimal.write date.month)
    ++ '-' :: Decimal.padZeros 2 (Decimal.write date.day)

end Date

namespace Clock

/-- How many digits of a fraction count. -/
def fractionDigits : Nat := 9

/-- The nanoseconds of a fraction's digits. -/
def nanosOf (digits : Text) : Nat :=
  let first := digits.take fractionDigits
  Decimal.appendDigits 0 first * Nat.pow 10 (fractionDigits - first.length)

/-- The fraction that a text begins with, if any, and what is behind it. -/
def readFraction? : Text → Option (Option Nat × Text)
  | '.' :: s =>
    match s.takeWhile Decimal.isDigit with
    | [] => none
    | digits => some (some (nanosOf digits), s.dropWhile Decimal.isDigit)
  | s => some (none, s)

/-- A time of day. -/
def exists? (clock : Clock) : Bool :=
  clock.hour ≤ 23 && clock.minute ≤ 59 && clock.second.all (· ≤ 60)

/-- The time that a text begins with, and what is behind it. -/
def read? (s : Text) : Option (Clock × Text) :=
  match digits? 2 s with
  | none => none
  | some (hour, s) =>
    match digitsBehind? ':' 2 s with
    | none => none
    | some (minute, s) =>
      let read : Option (Clock × Text) :=
        match s with
        | ':' :: s =>
          (digits? 2 s).bind fun (second, s) =>
            (readFraction? s).map fun (nanosecond, s) =>
              ({ hour, minute, second := some second, nanosecond }, s)
        | s => some ({ hour, minute, second := none, nanosecond := none }, s)
      read.filter fun (clock, _) => clock.exists?

/-- The digits of a fraction without the zeros at its end, but at least one. -/
def fractionText (nanosecond : Nat) : Text :=
  let digits := Decimal.padZeros fractionDigits (Decimal.write nanosecond)
  match (digits.reverse.dropWhile (· = '0')).reverse with
  | [] => "0".toList
  | digits => digits

/-- A time as it is written. -/
def write (clock : Clock) : Text :=
  Decimal.padZeros 2 (Decimal.write clock.hour) ++ ':' :: Decimal.padZeros 2 (Decimal.write clock.minute)
    ++ (match clock.second with
      | some second => ':' :: Decimal.padZeros 2 (Decimal.write second)
      | none => [])
    ++ (match clock.nanosecond with
      | some nanosecond => '.' :: fractionText nanosecond
      | none => [])

end Clock

namespace Offset

/-- The offset that a whole text writes. -/
def read? : Text → Option Offset
  | ['Z'] | ['z'] => some universal
  | sign :: s =>
    if sign = '+' ∨ sign = '-' then
      match digits? 2 s with
      | none => none
      | some (hour, s) =>
        match digitsBehind? ':' 2 s with
        | some (minute, []) =>
          if hour ≤ 23 ∧ minute ≤ 59 then
            some (minutes (sign = '-' ∧ 0 < 60 * hour + minute) (60 * hour + minute))
          else none
        | _ => none
    else none
  | [] => none

/-- An offset as it is written. -/
def write : Offset → Text
  | universal => "Z".toList
  | minutes behind count =>
    (if behind then '-' else '+') :: Decimal.padZeros 2 (Decimal.write (count / 60))
      ++ ':' :: Decimal.padZeros 2 (Decimal.write (count % 60))

end Offset

namespace Moment

/-- The moment that a date and the text behind it write. -/
def readBehindDate? (day : Date) : Text → Option Moment
  | [] => some (date day)
  | mark :: s =>
    if mark = 'T' ∨ mark = 't' ∨ mark = ' ' then
      match Clock.read? s with
      | none => none
      | some (time, []) => some (both day time none)
      | some (time, s) => (Offset.read? s).map fun offset => both day time (some offset)
    else none

/-- The moment that a text writes. -/
def ofText? (s : Text) : Option Moment :=
  match Date.read? s with
  | some (day, s) => readBehindDate? day s
  | none =>
    match Clock.read? s with
    | some (time, []) => some (clock time)
    | _ => none

/-- A moment as it is written. -/
def write : Moment → Text
  | date day => day.write
  | clock time => time.write
  | both day time offset =>
    day.write ++ 'T' :: time.write ++ (offset.map Offset.write).getD []

end Moment
end Toml
end TestBench
