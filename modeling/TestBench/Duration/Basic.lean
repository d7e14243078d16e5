/-
# Durations

A length of time: whole seconds, and nanoseconds below one second.  Seconds are counted in 64 bits.
-/

import TestBench.Text.Decimal

namespace TestBench

/-- A length of time. -/
structure Duration where
  seconds : Nat
  nanoseconds : Nat
  deriving DecidableEq, Repr

namespace Duration

/-- Nanoseconds in a second. -/
def nanosPerSecond : Nat := 1000000000

/-- Seconds are below this bound, `2 ^ 64`. -/
def secondsBound : Nat := 0x10000000000000000

/-- A duration that fits its fields. -/
def IsValid (d : Duration) : Prop := d.seconds < secondsBound ∧ d.nanoseconds < nanosPerSecond

instance (d : Duration) : Decidable d.IsValid := inferInstanceAs (Decidable (_ ∧ _))

/-- The length in nanoseconds. -/
def totalNanos (d : Duration) : Nat := d.seconds * nanosPerSecond + d.nanoseconds

end Duration
end TestBench
