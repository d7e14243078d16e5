/-
# Units of time

The units that durations are written in.

| unit | length | names |
| --- | ---: | --- |
| nanosecond | | `nanos` `nsec` `ns` |
| microsecond | 1000 ns | `usec` `us` `µs` |
| millisecond | 1000 µs | `millis` `msec` `ms` |
| second | 1000 ms | `seconds` `second` `secs` `sec` `s` |
| minute | 60 s | `minutes` `minute` `min` `mins` `m` |
| hour | 60 m | `hours` `hour` `hrs` `hr` `h` |
| day | 24 h | `days` `day` `d` |
| week | 7 d | `weeks` `week` `wks` `wk` `w` |
| month | 30.44 d | `months` `month` `M` |
| year | 365.25 d | `years` `year` `yrs` `yr` `y` |
-/

import TestBench.Duration.Basic

namespace TestBench
namespace Duration

/-- A unit of time. -/
inductive TimeUnit where
  | nanosecond
  | microsecond
  | millisecond
  | second
  | minute
  | hour
  | day
  | week
  | month
  | year
  deriving DecidableEq, Repr

namespace TimeUnit

/-- All units, short ones first. -/
def all : List TimeUnit :=
  [nanosecond, microsecond, millisecond, second, minute, hour, day, week, month, year]

/-- What a unit is called. -/
def names : TimeUnit → List Text
  | nanosecond => ["nanos".toList, "nsec".toList, "ns".toList]
  | microsecond => ["usec".toList, "us".toList, "µs".toList]
  | millisecond => ["millis".toList, "msec".toList, "ms".toList]
  | second => ["seconds".toList, "second".toList, "secs".toList, "sec".toList, "s".toList]
  | minute => ["minutes".toList, "minute".toList, "min".toList, "mins".toList, "m".toList]
  | hour => ["hours".toList, "hour".toList, "hrs".toList, "hr".toList, "h".toList]
  | day => ["days".toList, "day".toList, "d".toList]
  | week => ["weeks".toList, "week".toList, "wks".toList, "wk".toList, "w".toList]
  | month => ["months".toList, "month".toList, "M".toList]
  | year => ["years".toList, "year".toList, "yrs".toList, "yr".toList, "y".toList]

/-- The unit of a name.  Capitals matter. -/
def ofName? (name : Text) : Option TimeUnit := all.find? fun unit => unit.names.contains name

/-- The length of a unit: whole seconds, or nanoseconds below a second. -/
def length : TimeUnit → Nat × Nat
  | nanosecond => (0, 1)
  | microsecond => (0, 1000)
  | millisecond => (0, 1000000)
  | second => (1, 0)
  | minute => (60, 0)
  | hour => (3600, 0)
  | day => (86400, 0)
  | week => (604800, 0)
  | month => (2630016, 0)
  | year => (31557600, 0)

/-- The length of a unit that its decimal fractions are taken of; there are none of nanoseconds.
Fractions of a second or a minute are counted in nanoseconds, those of longer units in seconds. -/
def fractionLength? : TimeUnit → Option (Nat × Nat)
  | nanosecond => none
  | second => some (0, 1000000000)
  | minute => some (0, 60000000000)
  | unit => some unit.length

end TimeUnit
end Duration
end TestBench
