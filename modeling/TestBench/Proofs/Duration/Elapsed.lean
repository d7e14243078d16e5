/-
# Elapsed times read back

The text of an elapsed time is read back as minutes, if it has any, and hundredths of a second
(`readElapsed?`).  With `x` for the floating-point number of seconds of the duration:

| part | value |
| --- | --- |
| minutes | there are some iff `x` is beyond 60; the whole minutes of `x`, but no more than 71582788 |
| seconds | `x` less its whole minutes, with two decimals |

The seconds are rounded after the minutes are taken off, so they are shown as `60.00` for the last five thousandths of
a minute; and the minutes stop where 32 bits of whole seconds do, and the seconds do not.  Below that, the text is
within a hundredth of a second of the duration (`elapsedText_reads`).
-/

import TestBench.Duration.Elapsed
import TestBench.Proofs.Numeric.Binary64
import TestBench.Proofs.Text.Basic
import TestBench.Proofs.Text.Decimal

namespace TestBench

namespace Decimal

/-- Two places for the numbers below a hundred. -/
theorem padZeros_two {n : Nat} (h : n < 100) :
    padZeros 2 (write n) = [digit (n / 10), digit (n % 10)] := by
  rcases Nat.lt_or_ge n 10 with hn | hn
  · have hwrite : write n = [digit n] := by
      rw [write, writeDigits, if_pos hn]
    rw [hwrite, Nat.div_eq_of_lt hn, Nat.mod_eq_of_lt hn]
    rfl
  · obtain ⟨k, rfl⟩ := Nat.exists_eq_add_of_le hn
    have hwrite : write (10 + k) = [digit ((10 + k) / 10), digit ((10 + k) % 10)] := by
      rw [write, Nat.add_comm 10 k, writeDigits, if_neg (by omega), writeDigits, if_pos (by omega)]
      rfl
    rw [hwrite]
    rfl

theorem read?_pair {a b : Nat} (ha : a < 10) (hb : b < 10) : read? [digit a, digit b] = some (10 * a + b) := by
  have hdigits : [digit a, digit b].all isDigit = true := by
    simp [isDigit_digit ha, isDigit_digit hb]
  rw [read?, if_pos ⟨List.cons_ne_nil _ _, hdigits⟩]
  simp [appendDigits, digitValue_digit ha, digitValue_digit hb]

end Decimal

namespace Duration

open Numeric

/-! ### Reading -/

/-- The hundredths of a number of seconds with two decimals. -/
def readSeconds? (text : Text) : Option Nat :=
  match splitAtFirst? (· = '.') text with
  | some (whole, [tenths, hundredths, unit]) =>
    if unit = 's' then
      (Decimal.read? whole).bind fun seconds =>
        (Decimal.read? [tenths, hundredths]).map fun part => 100 * seconds + part
    else none
  | _ => none

/-- The minutes of an elapsed time, if it has a part for them, and the hundredths of its seconds. -/
def readElapsed? (text : Text) : Option (Option Nat × Nat) :=
  match splitAtFirst? (· = 'm') text with
  | none => (readSeconds? text).map (none, ·)
  | some (minutes, rest) =>
    (Decimal.read? minutes).bind fun m =>
      ((dropHead? " ".toList rest).bind readSeconds?).map (some m, ·)

example : readElapsed? "2m 5.07s".toList = some (some 2, 507) := by decide

theorem readSeconds?_twoDecimals (num den : Nat) :
    readSeconds? (twoDecimals num den ++ "s".toList) = some (roundHalfEven (100 * num) den) := by
  generalize hrounded : roundHalfEven (100 * num) den = rounded
  have hpart : rounded % 100 < 100 := Nat.mod_lt _ (by decide)
  have hsplit : splitAtFirst? (· = '.') (twoDecimals num den ++ "s".toList)
      = some (Decimal.write (rounded / 100),
          [Decimal.digit (rounded % 100 / 10), Decimal.digit (rounded % 100 % 10), 's']) := by
    rw [twoDecimals, hrounded, Decimal.padZeros_two hpart, List.append_assoc]
    refine splitAtFirst?_append (fun c hc => decide_eq_false ?_) (by decide) _
    rintro rfl
    exact absurd (Decimal.isDigit_of_mem_write hc) (by decide)
  rw [readSeconds?, hsplit]
  dsimp only
  rw [if_pos rfl, Decimal.read?_write, Decimal.read?_pair (by omega) (by omega), Nat.div_add_mod (rounded % 100) 10]
  exact congrArg some (Nat.div_add_mod rounded 100)

theorem minuteMark_notMem_twoDecimals (num den : Nat) : 'm' ∉ twoDecimals num den ++ "s".toList := by
  have hdigits : ∀ n, 'm' ∉ Decimal.write n := fun n h => absurd (Decimal.isDigit_of_mem_write h) (by decide)
  simp [twoDecimals, Decimal.padZeros, hdigits]

theorem splitAtFirst?_minutes (minutes : Nat) (rest : Text) :
    splitAtFirst? (· = 'm') (Decimal.write minutes ++ 'm' :: rest) = some (Decimal.write minutes, rest) := by
  refine splitAtFirst?_append (fun c hc => decide_eq_false ?_) (by decide) rest
  rintro rfl
  exact absurd (Decimal.isDigit_of_mem_write hc) (by decide)

/-- **An elapsed time is read back** as its minutes and its rounded seconds. -/
theorem readElapsed?_elapsedText (d : Duration) :
    readElapsed? d.elapsedText = some (
      if d.toBinary64.exceeds 60 then
        (some (min d.toBinary64.floor wholeSecondsLimit / 60),
          roundHalfEven (100 * d.toBinary64.remainder 60) d.toBinary64.den)
      else (none, roundHalfEven (100 * d.toBinary64.num) d.toBinary64.den)) := by
  rw [elapsedText]
  split_ifs with h
  · generalize min d.toBinary64.floor wholeSecondsLimit / 60 = minutes
    have htext : Decimal.write minutes ++ "m ".toList
          ++ twoDecimals (d.toBinary64.remainder 60) d.toBinary64.den ++ "s".toList
        = Decimal.write minutes
          ++ 'm' :: (" ".toList ++ (twoDecimals (d.toBinary64.remainder 60) d.toBinary64.den ++ "s".toList)) := by
      rw [List.append_assoc, List.append_assoc]
      rfl
    rw [readElapsed?, htext, splitAtFirst?_minutes]
    dsimp only
    rw [Decimal.read?_write, dropHead?_append, Option.bind_some, Option.bind_some, readSeconds?_twoDecimals,
      Option.map_some]
  · have hsplit := splitAtFirst?_of_forall_not (p := (· = 'm'))
      (s := twoDecimals d.toBinary64.num d.toBinary64.den ++ "s".toList) fun c hc =>
        decide_eq_false fun heq => minuteMark_notMem_twoDecimals _ _ (heq ▸ hc)
    rw [readElapsed?, hsplit]
    dsimp only
    rw [readSeconds?_twoDecimals]
    rfl

/-! ### Lengths -/

/-- The length in seconds. -/
def totalSeconds (d : Duration) : ℚ := d.seconds + d.nanoseconds / nanosPerSecond

/-- The seconds that minutes, if there are any, and hundredths of a second are. -/
def secondsOf (minutes : Option Nat) (hundredths : Nat) : ℚ := 60 * (minutes.getD 0 : Nat) + hundredths / 100

theorem nanoseconds_div_lt_one {n : Nat} (h : n < nanosPerSecond) : (n / nanosPerSecond : ℚ) < 1 := by
  rw [div_lt_one (by norm_num [nanosPerSecond])]
  exact_mod_cast h

theorem value_nanosPerSecond : (Binary64.ofNat nanosPerSecond).value = nanosPerSecond := by
  have hround : Binary64.ofNat nanosPerSecond = { mantissa := 8388608000000000, exponent := -23 } := by
    decide +kernel
  rw [hround, Binary64.value_eq]
  norm_num [nanosPerSecond]

/-- The floating-point number of nanoseconds, in seconds. -/
theorem abs_value_nanoseconds_sub_le {n : Nat} (h : n < nanosPerSecond) :
    |((Binary64.ofNat n).div (Binary64.ofNat nanosPerSecond)).value - n / nanosPerSecond| ≤ 1 / 10 ^ 15 := by
  have hn : (n : ℚ) ≤ 999999999 := by exact_mod_cast Nat.le_of_lt_succ h
  have hbound : (n : ℚ) < 2 ^ (30 : Int) := hn.trans_lt (by norm_num)
  have hpart := Binary64.abs_value_ofNat_sub_le (by norm_num) hbound
  have hunit := value_nanosPerSecond
  have hpos : 0 < (Binary64.ofNat nanosPerSecond).num := by decide +kernel
  generalize Binary64.ofNat nanosPerSecond = unit at hunit hpos
  generalize Binary64.ofNat n = part at hpart
  norm_num [abs_le] at hpart
  have hlt : part.value / unit.value < 2 ^ (0 : Int) := by
    rw [hunit, div_lt_iff₀ (by norm_num [nanosPerSecond])]
    norm_num [nanosPerSecond]
    linarith
  have hquotient := Binary64.abs_value_div_sub_le part unit hpos (by norm_num) hlt
  rw [hunit] at hquotient
  norm_num [abs_le, nanosPerSecond] at hquotient ⊢
  constructor <;> linarith

/-- **The floating-point number of seconds** is close to the duration. -/
theorem abs_value_toBinary64_sub_le {d : Duration} (h : d.IsValid) (hseconds : d.seconds < 2 ^ 40) :
    |d.toBinary64.value - d.totalSeconds| ≤ 1 / 5000 := by
  have hbound : (d.seconds : ℚ) < 2 ^ 40 := by exact_mod_cast hseconds
  have hnanos := nanoseconds_div_lt_one h.2
  have hwhole := Binary64.abs_value_ofNat_sub_le (k := 40) (by norm_num) (by exact_mod_cast hbound)
  have hpart := abs_value_nanoseconds_sub_le h.2
  rw [toBinary64, totalSeconds]
  generalize Binary64.ofNat d.seconds = whole at hwhole
  generalize (Binary64.ofNat d.nanoseconds).div (Binary64.ofNat nanosPerSecond) = part at hpart
  generalize (d.nanoseconds / nanosPerSecond : ℚ) = fraction at hnanos hpart
  norm_num [abs_le] at hwhole hpart
  have hlt : whole.value + part.value < 2 ^ (41 : Int) := by
    norm_num
    linarith
  have hsum := Binary64.abs_value_add_sub_le whole part (by norm_num) hlt
  norm_num [abs_le] at hsum ⊢
  constructor <;> linarith

/-! ### What is read back -/

/-- Two decimals are half a hundredth off at most. -/
theorem abs_hundredths_sub_le (num : Nat) {den : Nat} (hden : 0 < den) :
    |(roundHalfEven (100 * num) den : ℚ) / 100 - num / den| ≤ 1 / 200 := by
  have hround := @abs_roundHalfEven_sub_le (100 * num) den hden
  rw [Nat.cast_mul, mul_div_assoc, abs_le] at hround
  push_cast at hround
  rw [abs_le]
  constructor <;> linarith

/-- The whole minutes of a floating-point number of seconds. -/
def wholeMinutes (x : Binary64) : Nat := ⌊x.value / 60⌋₊

theorem floor_div_sixty (x : Binary64) : x.floor / 60 = wholeMinutes x := by
  rw [Binary64.floor_eq, wholeMinutes, ← Nat.floor_div_natCast]
  norm_num

/-- The whole minutes are not beyond the number, and less than one is left. -/
theorem wholeMinutes_bounds (x : Binary64) :
    60 * (wholeMinutes x : ℚ) ≤ x.value ∧ x.value < 60 * (wholeMinutes x + 1) := by
  have hnonneg : 0 ≤ x.value / 60 := div_nonneg x.value_nonneg (by norm_num)
  have hle := Nat.floor_le hnonneg
  have hlt := Nat.lt_floor_add_one (x.value / 60)
  rw [← wholeMinutes] at hle hlt
  constructor <;> linarith

theorem remainder_sixty (x : Binary64) : (x.remainder 60 : ℚ) / x.den = x.value - 60 * wholeMinutes x := by
  rw [Binary64.remainder_div, floor_div_sixty]
  norm_num

/-- **The seconds behind the minutes** are 60 at most, and they are for the last five thousandths of a minute. -/
theorem hundredths_le (x : Binary64) :
    roundHalfEven (100 * x.remainder 60) x.den ≤ 6000 ∧
      (roundHalfEven (100 * x.remainder 60) x.den = 6000 ↔ 59.995 ≤ x.value - 60 * wholeMinutes x) := by
  have hpos : (0 : ℚ) < x.den := by exact_mod_cast x.den_pos
  have hlt : 100 * x.remainder 60 < 6000 * x.den := by
    have hmod : x.remainder 60 < 60 * x.den := Nat.mod_lt _ (Nat.mul_pos (by decide) x.den_pos)
    omega
  refine ⟨roundHalfEven_le_of_lt x.den_pos hlt, ?_⟩
  rw [roundHalfEven_eq_succ_iff x.den_pos (n := 5999) rfl hlt, ← remainder_sixty, le_div_iff₀ hpos,
    ← Nat.cast_le (α := ℚ)]
  push_cast
  constructor <;> intro h <;> linarith

/-- Without minutes, the seconds are those of the number. -/
theorem abs_secondsOf_none_sub_le (x : Binary64) {t : ℚ} (ht : |x.value - t| ≤ 1 / 5000) :
    |secondsOf none (roundHalfEven (100 * x.num) x.den) - t| ≤ 1 / 100 := by
  have hround := abs_hundredths_sub_le x.num x.den_pos
  rw [← Binary64.value] at hround
  rw [abs_le] at ht hround ⊢
  rw [secondsOf, Option.getD_none, Nat.cast_zero]
  constructor <;> linarith

theorem min_floor_div_sixty (x : Binary64) :
    min x.floor wholeSecondsLimit / 60 = min (wholeMinutes x) 71582788 := by
  rw [← floor_div_sixty, wholeSecondsLimit]
  omega

/-- **With minutes,** the minutes and seconds are those of the number iff the minutes did not stop. -/
theorem abs_secondsOf_some_sub_le_iff (x : Binary64) {t : ℚ} (ht : |x.value - t| ≤ 1 / 5000) :
    |secondsOf (some (min x.floor wholeSecondsLimit / 60)) (roundHalfEven (100 * x.remainder 60) x.den) - t|
        ≤ 1 / 100 ↔ x.value < 60 * 71582789 := by
  have hround := abs_hundredths_sub_le (x.remainder 60) x.den_pos
  obtain ⟨hbelow, habove⟩ := wholeMinutes_bounds x
  rw [remainder_sixty] at hround
  rw [abs_le] at ht hround ⊢
  rw [secondsOf, Option.getD_some, min_floor_div_sixty]
  constructor
  · intro hclose
    by_contra hlarge
    -- The minutes stopped, at least one short.
    have hminutes : 71582789 ≤ wholeMinutes x := by
      have hlt : (71582788 : ℚ) < wholeMinutes x := by linarith
      exact_mod_cast hlt
    have hstop : (71582789 : ℚ) ≤ wholeMinutes x := by exact_mod_cast hminutes
    rw [min_eq_right (by omega)] at hclose
    push_cast at hclose
    linarith [hclose.1]
  · intro hsmall
    have hminutes : wholeMinutes x < 71582789 := by
      have hlt : (wholeMinutes x : ℚ) < 71582789 := by linarith
      exact_mod_cast hlt
    rw [min_eq_left (by omega)]
    constructor <;> linarith

/-- **The elapsed time shown.**  With `x` for the floating-point number of seconds, which is close to the duration: the
text is read back as the whole minutes of `x`, which stop at 71582788, if it is beyond 60 seconds, and as hundredths of
a second.  The seconds behind minutes are no more than 60, and they are 60 for the last five thousandths of a minute.
The text is within a hundredth of a second of the duration iff `x` is below 71582789 minutes, so it is for all durations
below `2 ^ 32` seconds. -/
theorem elapsedText_reads {d : Duration} (h : d.IsValid) :
    ∃ x minutes hundredths, d.toBinary64 = x ∧
      readElapsed? d.elapsedText = some (minutes, hundredths) ∧
      minutes = (if 60 < x.value then some (min (wholeMinutes x) 71582788) else none) ∧
      (minutes ≠ none →
        hundredths ≤ 6000 ∧ (hundredths = 6000 ↔ 59.995 ≤ x.value - 60 * wholeMinutes x)) ∧
      (d.seconds < 2 ^ 40 →
        |x.value - d.totalSeconds| ≤ 1 / 5000 ∧
          (|secondsOf minutes hundredths - d.totalSeconds| ≤ 1 / 100 ↔ x.value < 60 * 71582789)) ∧
      (d.seconds < 2 ^ 32 → |secondsOf minutes hundredths - d.totalSeconds| ≤ 1 / 100) := by
  have hread := readElapsed?_elapsedText d
  have hclose := abs_value_toBinary64_sub_le h
  have hnanos := nanoseconds_div_lt_one h.2
  have hexceeds := d.toBinary64.exceeds_iff 60
  generalize hx : d.toBinary64 = x at hread hclose hexceeds
  -- Below `2 ^ 32` seconds the minutes do not stop.
  have hsmall : d.seconds < 2 ^ 32 → x.value < 60 * 71582789 := by
    intro hseconds
    have hwhole : (d.seconds : ℚ) < 4294967296 := by exact_mod_cast hseconds
    have hupper := (abs_le.1 (hclose (by omega))).2
    rw [totalSeconds] at hupper
    linarith
  push_cast at hexceeds
  split_ifs at hread with hminutes
  · have hiff := fun hseconds => abs_secondsOf_some_sub_le_iff x (hclose hseconds)
    refine ⟨x, _, _, rfl, hread, ?_, fun _ => hundredths_le x,
      fun hseconds => ⟨hclose hseconds, hiff hseconds⟩, fun hseconds => (hiff (by omega)).2 (hsmall hseconds)⟩
    rw [min_floor_div_sixty, if_pos (hexceeds.1 hminutes)]
  · have hle : x.value ≤ 60 := not_lt.1 (mt hexceeds.2 hminutes)
    have hnone := fun hseconds => abs_secondsOf_none_sub_le x (hclose hseconds)
    refine ⟨x, _, _, rfl, hread, (if_neg (not_lt.2 hle)).symm, fun hne => absurd rfl hne,
      fun hseconds => ⟨hclose hseconds, iff_of_true (hnone hseconds) (by linarith)⟩,
      fun hseconds => hnone (by omega)⟩

/-- A thousandth of a second less than two minutes. -/
def nearlyTwoMinutes : Duration := { seconds := 119, nanoseconds := 999000000 }

theorem readElapsed?_nearlyTwoMinutes : readElapsed? nearlyTwoMinutes.elapsedText = some (some 1, 6000) := by
  decide +kernel

/-- The seconds of such a duration are shown as 60.00, since what is left of it behind the whole minutes is nearer to
that than to 59.99; what is shown is within a hundredth of the duration. -/
theorem elapsedText_reads_nearlyTwoMinutes :
    nearlyTwoMinutes.IsValid ∧ nearlyTwoMinutes.elapsedText = "1m 60.00s".toList ∧
      59.995 ≤ nearlyTwoMinutes.toBinary64.value - 60 * wholeMinutes nearlyTwoMinutes.toBinary64 ∧
      |secondsOf (some 1) 6000 - nearlyTwoMinutes.totalSeconds| ≤ 1 / 100 := by
  have hvalid : nearlyTwoMinutes.IsValid := by decide
  obtain ⟨x, minutes, hundredths, rfl, hread, -, hsixty, -, hclose⟩ := elapsedText_reads hvalid
  obtain ⟨rfl, rfl⟩ := Prod.mk.inj (Option.some.inj (hread.symm.trans readElapsed?_nearlyTwoMinutes))
  exact ⟨hvalid, by decide +kernel, (hsixty nofun).2.1 rfl, hclose (by decide)⟩

/-- `2 ^ 33` seconds. -/
def manyMinutes : Duration := { seconds := 8589934592, nanoseconds := 0 }

theorem readElapsed?_manyMinutes : readElapsed? manyMinutes.elapsedText = some (some 71582788, 3200) := by
  decide +kernel

/-- **The seconds shown are not always below 60, and the time shown is not always that of the duration**, even below
`2 ^ 40` seconds. -/
theorem not_elapsedText_reads :
    (¬∀ d : Duration, d.IsValid → ∀ minutes hundredths,
      readElapsed? d.elapsedText = some (minutes, hundredths) → minutes ≠ none → hundredths < 6000) ∧
    ¬∀ d : Duration, d.IsValid → d.seconds < 2 ^ 40 → ∀ minutes hundredths,
      readElapsed? d.elapsedText = some (minutes, hundredths) →
        |secondsOf minutes hundredths - d.totalSeconds| ≤ 1 / 100 := by
  refine ⟨fun h => ?_, fun h => ?_⟩
  · exact absurd (h nearlyTwoMinutes (by decide) _ _ readElapsed?_nearlyTwoMinutes nofun) (by decide)
  · have hclose := h manyMinutes (by decide) (by decide) _ _ readElapsed?_manyMinutes
    norm_num [secondsOf, totalSeconds, manyMinutes] at hclose

end Duration
end TestBench
