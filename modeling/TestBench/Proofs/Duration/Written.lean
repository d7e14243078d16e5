/-
# Durations read back

The text of a duration counts units, long ones first, and leaves out those that it has none of.

| part | how it is read back |
| --- | --- |
| numeral | as its number, unless that is too large (`amountsFrom?_write`) |
| name | as the unit that it counts, in the singular and in the plural (`TimeUnit.ofName?_nameFor`) |
| blank | as the end of an amount; none follows the last one (`amountsFrom?_joinWith`) |
| all amounts | as their sum, provided that it fits (`sum?_amounts`) |

The counts of a duration are a mixed radix numeral of it, so that they sum up to the duration; no part of a sum is
larger than the sum, so that nothing overflows on the way.  The text of a duration is therefore read back as that
duration, up to the greatest one (`ofText?_write`).
-/

import Mathlib
import TestBench.Duration.Printer
import TestBench.Duration.Reader
import TestBench.Proofs.Text.Basic
import TestBench.Proofs.Text.Decimal

namespace TestBench
namespace Duration

/-! ### Counts of units -/

namespace TimeUnit

/-- What one of a unit is called where it is counted. -/
def singular : TimeUnit → Text
  | nanosecond => "ns".toList
  | microsecond => "us".toList
  | millisecond => "ms".toList
  | second => "s".toList
  | minute => "m".toList
  | hour => "h".toList
  | day => "day".toList
  | week => "week".toList
  | month => "month".toList
  | year => "year".toList

/-- What several of a unit are called. -/
def plural : TimeUnit → Text
  | day => "days".toList
  | week => "weeks".toList
  | month => "months".toList
  | year => "years".toList
  | unit => unit.singular

/-- What a unit is called where `n` of it are counted. -/
def nameFor (unit : TimeUnit) (n : Nat) : Text := if 1 < n then unit.plural else unit.singular

/-- **The name of a unit is known**, in the singular and in the plural. -/
theorem ofName?_nameFor (unit : TimeUnit) (n : Nat) : ofName? (unit.nameFor n) = some unit := by
  unfold nameFor
  split
  · cases unit <;> decide
  · cases unit <;> decide

theorem nameFor_ne_nil (unit : TimeUnit) (n : Nat) : unit.nameFor n ≠ [] := by
  unfold nameFor
  split
  · cases unit <;> decide
  · cases unit <;> decide

/-- The names are written in small letters. -/
theorem isLower_of_mem_nameFor {unit : TimeUnit} {n : Nat} {c : Char} (h : c ∈ unit.nameFor n) :
    c.isLower = true := by
  have hplural : unit.plural.all Char.isLower = true := by cases unit <;> decide
  have hsingular : unit.singular.all Char.isLower = true := by cases unit <;> decide
  unfold nameFor at h
  split at h
  · exact List.all_eq_true.1 hplural c h
  · exact List.all_eq_true.1 hsingular c h

end TimeUnit

/-- Numbers of units. -/
abbrev Counts := List (TimeUnit × Nat)

namespace Counts

/-- The amounts, as they are read. -/
def amounts (counts : Counts) : List Amount :=
  counts.map fun (unit, n) => { whole := n, fraction := none, name := unit.nameFor n }

/-- The amounts, as they are written. -/
def texts (counts : Counts) : List Text := counts.map fun (unit, n) => Decimal.write n ++ unit.nameFor n

/-- Their whole seconds. -/
def seconds (counts : Counts) : Nat := (counts.map fun (unit, n) => n * unit.length.1).sum

/-- Their nanoseconds. -/
def nanoseconds (counts : Counts) : Nat := (counts.map fun (unit, n) => n * unit.length.2).sum

variable {counts : Counts} {unit : TimeUnit} {n : Nat}

@[simp] theorem seconds_nil : seconds [] = 0 := rfl

@[simp] theorem nanoseconds_nil : nanoseconds [] = 0 := rfl

@[simp] theorem seconds_cons : seconds ((unit, n) :: counts) = n * unit.length.1 + seconds counts := by
  rw [seconds, List.map_cons, List.sum_cons, seconds]

@[simp] theorem nanoseconds_cons :
    nanoseconds ((unit, n) :: counts) = n * unit.length.2 + nanoseconds counts := by
  rw [nanoseconds, List.map_cons, List.sum_cons, nanoseconds]

/-- Without the units that there are none of. -/
def positive (counts : Counts) : Counts := counts.filter fun (_, n) => n ≠ 0

end Counts

/-- The units of a whole number of seconds, long ones first. -/
def secondCounts (seconds : Nat) : Counts :=
  [(.year, seconds / 31557600), (.month, seconds % 31557600 / 2630016),
    (.day, seconds % 31557600 % 2630016 / 86400), (.hour, seconds % 31557600 % 2630016 % 86400 / 3600),
    (.minute, seconds % 31557600 % 2630016 % 86400 % 3600 / 60),
    (.second, seconds % 31557600 % 2630016 % 86400 % 60)]

/-- The units of a number of nanoseconds below a second. -/
def nanoCounts (nanoseconds : Nat) : Counts :=
  [(.millisecond, nanoseconds / 1000000), (.microsecond, nanoseconds / 1000 % 1000),
    (.nanosecond, nanoseconds % 1000)]

/-- The units of a duration. -/
def counts (d : Duration) : Counts := secondCounts d.seconds ++ nanoCounts d.nanoseconds

theorem amountTexts_eq (d : Duration) :
    d.amountTexts = d.counts.map fun (unit, n) => if n = 0 then [] else Decimal.write n ++ unit.nameFor n := by
  have hspelt : ∀ name n, spelt name n
      = if n = 0 then [] else Decimal.write n ++ if 1 < n then name ++ "s".toList else name := by
    intro name n
    unfold spelt
    split
    · rfl
    · split
      · rw [List.append_assoc]
      · rw [List.append_nil]
  have hshort : ∀ name n, short name n = if n = 0 then [] else Decimal.write n ++ if 1 < n then name else name := by
    intro name n
    rw [short, ite_self]
  simp only [amountTexts, hspelt, hshort]
  rw [counts, List.map_append, secondCounts, nanoCounts]
  rfl

/-- What is written is the units that there are some of. -/
theorem filter_amountTexts (d : Duration) : d.amountTexts.filter (· ≠ []) = d.counts.positive.texts := by
  rw [amountTexts_eq, List.filter_map, Counts.positive, Counts.texts]
  have hfilter : d.counts.filter ((fun text : Text => decide (text ≠ [])) ∘ fun (unit, n) =>
      if n = 0 then [] else Decimal.write n ++ unit.nameFor n) = d.counts.filter fun (_, n) => n ≠ 0 := by
    refine List.filter_congr fun (unit, n) _ => ?_
    by_cases hn : n = 0
    · simp [hn]
    · simp [hn, Decimal.write_ne_nil]
  rw [hfilter]
  refine List.map_congr_left fun (unit, n) hmem => ?_
  have hn : n ≠ 0 := by simpa using (List.mem_filter.1 hmem).2
  exact if_neg hn

/-- **The counts sum up to the duration.** -/
theorem seconds_counts (d : Duration) : d.counts.seconds = d.seconds := by
  simp only [counts, secondCounts, nanoCounts, List.cons_append, List.nil_append, Counts.seconds_cons,
    Counts.seconds_nil, TimeUnit.length]
  omega

theorem nanoseconds_counts (d : Duration) : d.counts.nanoseconds = d.nanoseconds := by
  simp only [counts, secondCounts, nanoCounts, List.cons_append, List.nil_append, Counts.nanoseconds_cons,
    Counts.nanoseconds_nil, TimeUnit.length]
  omega

namespace Counts

variable {counts : Counts} {unit : TimeUnit} {n : Nat}

theorem seconds_positive (counts : Counts) : counts.positive.seconds = counts.seconds := by
  induction counts with
  | nil => rfl
  | cons count counts ih =>
    obtain ⟨unit, n⟩ := count
    by_cases hn : n = 0
    · simp [positive, hn, ← ih]
    · simp [positive, hn, ← ih]

theorem nanoseconds_positive (counts : Counts) : counts.positive.nanoseconds = counts.nanoseconds := by
  induction counts with
  | nil => rfl
  | cons count counts ih =>
    obtain ⟨unit, n⟩ := count
    by_cases hn : n = 0
    · simp [positive, hn, ← ih]
    · simp [positive, hn, ← ih]

/-- Each unit has a length, so that a count is no larger than the sum. -/
theorem lt_of_mem {bound : Nat} (hseconds : counts.seconds < bound) (hnanos : counts.nanoseconds < bound)
    (h : (unit, n) ∈ counts) : n < bound := by
  have hone : n ≤ n * unit.length.1 ∨ n ≤ n * unit.length.2 := by
    cases unit <;> simp only [TimeUnit.length] <;> omega
  have hs : n * unit.length.1 ≤ counts.seconds := List.le_sum_of_mem (List.mem_map.2 ⟨(unit, n), h, rfl⟩)
  have hns : n * unit.length.2 ≤ counts.nanoseconds := List.le_sum_of_mem (List.mem_map.2 ⟨(unit, n), h, rfl⟩)
  omega

end Counts

/-! ### Reading amounts -/

/-- A numeral is read to its end, whatever follows. -/
theorem amountsFrom?_digits {digits : Text} (hdigits : ∀ c ∈ digits, Decimal.isDigit c = true) {n : Nat}
    (h : Decimal.appendDigits n digits < numberBound) (rest : Text) :
    amountsFrom? (.whole n) (digits ++ rest) = amountsFrom? (.whole (Decimal.appendDigits n digits)) rest := by
  induction digits generalizing n with
  | nil => rfl
  | cons c digits ih =>
    have hc := hdigits c List.mem_cons_self
    have hle : 10 * n + Decimal.digitValue c ≤ Decimal.appendDigits n (c :: digits) :=
      Decimal.le_appendDigits _ digits
    have hbounded : bounded? (10 * n + Decimal.digitValue c) = some (10 * n + Decimal.digitValue c) :=
      if_pos (Nat.lt_of_le_of_lt hle h)
    have hstep : Place.step? (.whole n) c = some (.whole (10 * n + Decimal.digitValue c), none) := by
      rw [Place.step?, if_pos hc, hbounded]
      rfl
    have hrest := ih (fun c hc => hdigits c (List.mem_cons_of_mem _ hc)) h
    rw [List.cons_append, amountsFrom?, hstep]
    dsimp only
    rw [hrest]
    exact Option.map_id'

/-- An amount begins with its numeral. -/
theorem amountsFrom?_write {n : Nat} (h : n < numberBound) (rest : Text) :
    amountsFrom? .between (Decimal.write n ++ rest) = amountsFrom? (.whole n) rest := by
  obtain ⟨c, digits, hwrite⟩ := List.exists_cons_of_ne_nil (Decimal.write_ne_nil n)
  have hdigits : ∀ c' ∈ c :: digits, Decimal.isDigit c' = true := fun c' hc' =>
    Decimal.isDigit_of_mem_write (hwrite ▸ hc')
  have hvalue : Decimal.appendDigits (Decimal.digitValue c) digits = n := by
    have hread := (Decimal.read?_eq_some_iff.1 (Decimal.read?_write n)).2.2
    rw [← Decimal.appendDigits_eq_value, hwrite, Decimal.appendDigits_cons, Nat.mul_zero, Nat.zero_add] at hread
    exact hread.symm
  have hstep : Place.step? .between c = some (.whole (Decimal.digitValue c), none) :=
    if_pos (hdigits c List.mem_cons_self)
  have hrest := amountsFrom?_digits (fun c' hc' => hdigits c' (List.mem_cons_of_mem c hc'))
    (show Decimal.appendDigits (Decimal.digitValue c) digits < numberBound from hvalue.symm ▸ h) rest
  rw [hwrite, List.cons_append, amountsFrom?, hstep]
  dsimp only
  rw [hrest, hvalue]
  exact Option.map_id'

theorem bounds_of_isLower {c : Char} (h : c.isLower = true) : 97 ≤ c.toNat ∧ c.toNat ≤ 122 := by
  simpa [Char.isLower, UInt32.le_iff_toNat_le] using h

/-- Small letters belong to names. -/
theorem letter_of_isLower {c : Char} (h : c.isLower = true) :
    Decimal.isDigit c = false ∧ Text.isBlank c = false ∧ isUnitLetter c = true := by
  have hletter : isUnitLetter c = true := by
    simp [isUnitLetter, Char.isAlpha, h]
  have hbounds := bounds_of_isLower h
  refine ⟨?_, ?_, hletter⟩
  · simp only [Decimal.isDigit, Bool.and_eq_false_iff, decide_eq_false_iff_not]
    omega
  · simp only [Text.isBlank, Bool.or_eq_false_iff, Bool.and_eq_false_iff, decide_eq_false_iff_not, beq_eq_false_iff_ne]
    omega

/-- A name is read to its end, whatever follows. -/
theorem amountsFrom?_letters {letters : Text} (hletters : ∀ c ∈ letters, c.isLower = true) (n : Nat)
    (word rest : Text) :
    amountsFrom? (.name n none word) (letters ++ rest)
      = amountsFrom? (.name n none (letters.reverse ++ word)) rest := by
  induction letters generalizing word with
  | nil => rfl
  | cons c letters ih =>
    obtain ⟨hdigit, hblank, hletter⟩ := letter_of_isLower (hletters c List.mem_cons_self)
    have hstep : Place.step? (.name n none word) c = some (.name n none (c :: word), none) := by
      simp [Place.step?, hdigit, hblank, hletter]
    have hrest := ih (fun c hc => hletters c (List.mem_cons_of_mem _ hc)) (c :: word)
    rw [List.cons_append, amountsFrom?, hstep]
    dsimp only
    rw [hrest, List.reverse_cons, List.append_assoc]
    exact Option.map_id'

/-- A name begins behind the numeral. -/
theorem amountsFrom?_name {name : Text} (hne : name ≠ []) (hname : ∀ c ∈ name, c.isLower = true) (n : Nat)
    (rest : Text) :
    amountsFrom? (.whole n) (name ++ rest) = amountsFrom? (.name n none name.reverse) rest := by
  obtain ⟨c, letters, rfl⟩ := List.exists_cons_of_ne_nil hne
  obtain ⟨hdigit, hblank, hletter⟩ := letter_of_isLower (hname c List.mem_cons_self)
  have hstep : Place.step? (.whole n) c = some (.name n none [c], none) := by
    simp [Place.step?, hdigit, hblank, hletter]
  have hrest := amountsFrom?_letters (fun c hc => hname c (List.mem_cons_of_mem _ hc)) n [c] rest
  rw [List.cons_append, amountsFrom?, hstep]
  dsimp only
  rw [hrest, List.reverse_cons]
  exact Option.map_id'

/-- **Amounts are read back one by one**: a blank ends each of them but the last, which the text ends. -/
theorem amountsFrom?_joinWith {counts : Counts} (h : ∀ unit n, (unit, n) ∈ counts → n < numberBound) :
    amountsFrom? .between (joinWith " ".toList counts.texts) = some counts.amounts := by
  induction counts with
  | nil => rfl
  | cons count counts ih =>
    obtain ⟨unit, n⟩ := count
    have hread : ∀ rest, amountsFrom? .between (Decimal.write n ++ unit.nameFor n ++ rest)
        = amountsFrom? (.name n none (unit.nameFor n).reverse) rest := by
      intro rest
      rw [List.append_assoc, amountsFrom?_write (h unit n List.mem_cons_self),
        amountsFrom?_name (unit.nameFor_ne_nil n) fun c => TimeUnit.isLower_of_mem_nameFor]
    have hrest := ih fun unit n hmem => h unit n (List.mem_cons_of_mem _ hmem)
    cases counts with
    | nil =>
      have hend := hread []
      rw [List.append_nil] at hend
      refine hend.trans ?_
      rw [amountsFrom?, List.reverse_reverse]
      rfl
    | cons next counts =>
      have hblank : Place.step? (.name n none (unit.nameFor n).reverse) ' '
          = some (.between, some { whole := n, fraction := none, name := unit.nameFor n }) := by
        rw [Place.step?, List.reverse_reverse]
        rfl
      have hjoin : joinWith " ".toList (Counts.texts ((unit, n) :: next :: counts))
          = Decimal.write n ++ unit.nameFor n ++ ' ' :: joinWith " ".toList (Counts.texts (next :: counts)) := by
        rw [Counts.texts, List.map_cons, List.map_cons, joinWith, List.append_assoc]
        rfl
      rw [hjoin, hread, amountsFrom?, hblank]
      dsimp only
      rw [hrest]
      rfl

/-! ### Adding up -/

/-- What is added to a duration is in bounds if the sum is. -/
theorem extend?_eq_some {d : Duration} {seconds nanoseconds : Nat} (hseconds : d.seconds + seconds < secondsBound)
    (hnanos : d.nanoseconds + nanoseconds < nanosPerSecond) :
    d.extend? seconds nanoseconds
      = some { seconds := d.seconds + seconds, nanoseconds := d.nanoseconds + nanoseconds } := by
  have hbounded : bounded? (d.nanoseconds + nanoseconds) = some (d.nanoseconds + nanoseconds) :=
    if_pos (hnanos.trans (by decide))
  have hcarry : (d.nanoseconds + nanoseconds) / nanosPerSecond = 0 := Nat.div_eq_of_lt hnanos
  have hsum : bounded? (d.seconds + seconds + 0) = some (d.seconds + seconds) := if_pos hseconds
  rw [extend?, hbounded]
  dsimp only
  rw [hcarry, hsum, Nat.mod_eq_of_lt hnanos]

/-- A whole number of a unit is added as so many of its seconds and nanoseconds. -/
theorem addTo?_nameFor {d : Duration} {unit : TimeUnit} {n : Nat}
    (hseconds : d.seconds + n * unit.length.1 < secondsBound)
    (hnanos : d.nanoseconds + n * unit.length.2 < nanosPerSecond) :
    Amount.addTo? d { whole := n, fraction := none, name := unit.nameFor n }
      = some { seconds := d.seconds + n * unit.length.1, nanoseconds := d.nanoseconds + n * unit.length.2 } := by
  have hsecondsBound : secondsBound = numberBound := rfl
  have hnanosBound : nanosPerSecond < numberBound := by decide
  have hfirst : bounded? (n * unit.length.1) = some (n * unit.length.1) := if_pos (by omega)
  have hsecond : bounded? (n * unit.length.2) = some (n * unit.length.2) := if_pos (by omega)
  rw [Amount.addTo?]
  dsimp only
  rw [TimeUnit.ofName?_nameFor]
  dsimp only
  rw [Amount.addWhole?]
  dsimp only
  rw [hfirst, hsecond]
  dsimp only
  rw [extend?_eq_some hseconds hnanos]
  rfl

/-- **Amounts add up to their sum**, if that is a duration. -/
theorem sum?_amounts {counts : Counts} {d : Duration} (hseconds : d.seconds + counts.seconds < secondsBound)
    (hnanos : d.nanoseconds + counts.nanoseconds < nanosPerSecond) :
    sum? d counts.amounts
      = some { seconds := d.seconds + counts.seconds, nanoseconds := d.nanoseconds + counts.nanoseconds } := by
  induction counts generalizing d with
  | nil => rfl
  | cons count counts ih =>
    obtain ⟨unit, n⟩ := count
    rw [Counts.seconds_cons, ← Nat.add_assoc] at hseconds ⊢
    rw [Counts.nanoseconds_cons, ← Nat.add_assoc] at hnanos ⊢
    have hfirst := addTo?_nameFor (Nat.lt_of_le_of_lt (Nat.le_add_right _ _) hseconds)
      (Nat.lt_of_le_of_lt (Nat.le_add_right _ _) hnanos)
    rw [Counts.amounts, List.map_cons, sum?]
    dsimp only
    rw [hfirst, Option.bind_some]
    exact ih hseconds hnanos

/-! ### The text of a duration -/

/-- What a duration with time in it is written as. -/
theorem write_of_ne_nil {d : Duration} (h : d.counts.positive ≠ []) :
    d.write = joinWith " ".toList d.counts.positive.texts := by
  have htexts : d.counts.positive.texts ≠ [] := fun hnil => h (List.map_eq_nil_iff.1 hnil)
  rw [write, filter_amountTexts]
  split
  · next hnil => exact absurd hnil htexts
  · rfl

/-- Without any count there is no time. -/
theorem eq_zero_of_positive_eq_nil {d : Duration} (h : d.counts.positive = []) : d = zero := by
  have hseconds := d.counts.seconds_positive
  have hnanos := d.counts.nanoseconds_positive
  rw [h, seconds_counts] at hseconds
  rw [h, nanoseconds_counts] at hnanos
  obtain ⟨seconds, nanoseconds⟩ := d
  rw [zero, mk.injEq]
  exact ⟨hseconds.symm, hnanos.symm⟩

/-- **What is written reads back**: every duration is described by its text. -/
theorem ofText?_write {d : Duration} (h : d.IsValid) : ofText? d.write = some d := by
  obtain ⟨hseconds, hnanos⟩ := h
  by_cases hnil : d.counts.positive = []
  · obtain rfl := eq_zero_of_positive_eq_nil hnil
    decide
  · have hs : d.counts.positive.seconds = d.seconds := by rw [Counts.seconds_positive, seconds_counts]
    have hns : d.counts.positive.nanoseconds = d.nanoseconds := by
      rw [Counts.nanoseconds_positive, nanoseconds_counts]
    have hbound : ∀ unit n, (unit, n) ∈ d.counts.positive → n < numberBound := fun unit n =>
      Counts.lt_of_mem (hs ▸ hseconds) (hns ▸ hnanos.trans (by decide))
    have hread : amountsFrom? .between d.write = some d.counts.positive.amounts := by
      rw [write_of_ne_nil hnil]
      exact amountsFrom?_joinWith hbound
    have hsum : sum? zero d.counts.positive.amounts = some d := by
      rw [sum?_amounts (by rw [hs]; simpa [zero] using hseconds) (by rw [hns]; simpa [zero] using hnanos), hs, hns]
      simp [zero]
    -- a lone zero has no unit, so that it is no sequence of amounts
    have hne : d.write ≠ "0".toList := by
      intro hzero
      rw [hzero] at hread
      cases hread
    have hamounts : d.counts.positive.amounts ≠ [] := fun h => hnil (List.map_eq_nil_iff.1 h)
    rw [ofText?, if_neg hne, hread]
    split
    · next heq => cases heq
    · next heq => exact absurd (Option.some.inj heq) hamounts
    · next heq =>
      obtain rfl := Option.some.inj heq
      exact hsum

/-- The text of a duration is made of digits, small letters and blanks. -/
theorem plain_of_mem_write {d : Duration} {c : Char} (h : c ∈ d.write) :
    Decimal.isDigit c = true ∨ c.isLower = true ∨ c = ' ' := by
  by_cases hnil : d.counts.positive = []
  · obtain rfl := eq_zero_of_positive_eq_nil hnil
    have hzero : Duration.zero.write.all (fun c => Decimal.isDigit c || c.isLower) = true := by decide
    rcases Bool.or_eq_true_iff.1 (List.all_eq_true.1 hzero c h) with hdigit | hletter
    · exact .inl hdigit
    · exact .inr (.inl hletter)
  · rw [write_of_ne_nil hnil] at h
    rcases mem_of_mem_joinWith h with hblank | ⟨text, htext, hc⟩
    · exact .inr (.inr (List.mem_singleton.1 hblank))
    · obtain ⟨⟨unit, n⟩, -, rfl⟩ := List.mem_map.1 htext
      rcases List.mem_append.1 hc with hdigit | hletter
      · exact .inl (Decimal.isDigit_of_mem_write hdigit)
      · exact .inr (.inl (TimeUnit.isLower_of_mem_nameFor hletter))

/-- It begins with a digit. -/
theorem exists_write_eq_cons (d : Duration) : ∃ c rest, Decimal.isDigit c = true ∧ d.write = c :: rest := by
  by_cases hnil : d.counts.positive = []
  · obtain rfl := eq_zero_of_positive_eq_nil hnil
    exact ⟨'0', ['s'], by decide, by decide⟩
  · rw [write_of_ne_nil hnil]
    obtain ⟨⟨unit, n⟩, counts, hcounts⟩ := List.exists_cons_of_ne_nil hnil
    obtain ⟨c, digits, hwrite⟩ := List.exists_cons_of_ne_nil (Decimal.write_ne_nil n)
    have hdigit : Decimal.isDigit c = true := Decimal.isDigit_of_mem_write (hwrite ▸ List.mem_cons_self)
    rw [hcounts, Counts.texts, List.map_cons]
    dsimp only
    rw [hwrite]
    cases counts with
    | nil => exact ⟨c, digits ++ unit.nameFor n, hdigit, rfl⟩
    | cons next counts => exact ⟨c, _, hdigit, rfl⟩

end Duration
end TestBench
