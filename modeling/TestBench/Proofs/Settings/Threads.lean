/-
# Numbers of binaries from texts and from integers

A number of binaries is asked for on the command line, with a text, or in a file, with an integer or a string.
On a machine with `cpus` processors both readers say the same of an integer of 64 bits.

| integer | number of binaries |
| --- | --- |
| zero | none: it is no answer |
| positive | the integer |
| negative | the processors less its absolute value, but at least one |

The table is `ofInt?`, over all integers.  Each reader computes in words of 64 bits on its own, and both compute
this: the sum of the last row has 64 bits again, so that nothing is lost (`ofWord?_eq`, `ofInteger?_eq`).
The words `num-cpus` apart, a text is accepted if it denotes an integer of the first or the last kind
(`ofText_eq_ok_iff`), and what is accepted is shown by a text for itself (`ofText_write`).
-/

import Mathlib
import TestBench.Proofs.Text.Decimal
import TestBench.Settings.Decode

namespace TestBench
namespace Settings
namespace Threads

variable {cpus k : Nat} {n : Int} {text : Text} {threads : Threads}

/-! ### From integers -/

/-- The number of binaries that an integer stands for. -/
def ofInt? (cpus : Nat) (n : Int) : Option Threads :=
  if n = 0 then none
  else if 0 < n then some (count n.toNat)
  else some (count (max (cpus + n) 1).toNat)

theorem ofInt?_eq_some_iff :
    ofInt? cpus n = some threads ↔
      0 < n ∧ threads = count n.toNat ∨ n < 0 ∧ threads = count (max (cpus + n) 1).toNat := by
  rw [ofInt?]
  split_ifs with hzero hpos
  · exact ⟨nofun, fun h => by omega⟩
  · rw [Option.some.injEq, eq_comm]
    exact ⟨fun h => .inl ⟨hpos, h⟩, fun h => (h.resolve_right fun hneg => by omega).2⟩
  · rw [Option.some.injEq, eq_comm]
    exact ⟨fun h => .inr ⟨by omega, h⟩, fun h => (h.resolve_left fun hpos' => hpos hpos'.1).2⟩

theorem ofInt?_of_pos (h : 0 < n) : ofInt? cpus n = some (count n.toNat) :=
  ofInt?_eq_some_iff.2 (.inl ⟨h, rfl⟩)

theorem ofInt?_of_neg (h : n < 0) : ofInt? cpus n = some (count (max (cpus + n) 1).toNat) :=
  ofInt?_eq_some_iff.2 (.inr ⟨h, rfl⟩)

/-- **An integer stands for a number that is not zero**, and has 64 bits if the integer and the number of
processors have them. -/
theorem exists_count_of_ofInt? (h : ofInt? cpus n = some threads) :
    ∃ k, threads = count k ∧ 1 ≤ k ∧ (cpus < 2 ^ 63 → n < 2 ^ 63 → k < 2 ^ 63) := by
  rcases ofInt?_eq_some_iff.1 h with ⟨hpos, rfl⟩ | ⟨hneg, rfl⟩
  · exact ⟨_, rfl, by omega, by omega⟩
  · exact ⟨_, rfl, by omega, by omega⟩

/-! ### In words of 64 bits -/

theorem toInt_max (a b : Int64) : (max a b).toInt = max a.toInt b.toInt := by
  have hmax : max a b = if a ≤ b then b else a := rfl
  rw [hmax]
  split_ifs with h
  · exact (max_eq_right (Int64.le_iff_toInt_le.1 h)).symm
  · rw [Int64.le_iff_toInt_le, not_le] at h
    exact (max_eq_left h.le).symm

/-- A word that is not negative is the same number without its sign. -/
theorem toNat_toUInt64 {n : Int64} (h : 0 ≤ n.toInt) : n.toUInt64.toNat = n.toInt.toNat :=
  Int64.toNat_toUInt64_of_le (Int64.le_iff_toInt_le.2 h)

/-- **The sum does not overflow**: one summand is negative, and the other is not. -/
theorem toInt_add_of_neg (hcpus : cpus < 2 ^ 63) {n : Int64} (h : n < 0) :
    (Int64.ofNat cpus + n).toInt = cpus + n.toInt := by
  have hneg : n.toInt < 0 := Int64.lt_iff_toInt_lt.1 h
  have hle := n.le_toInt
  rw [Int64.toInt_add, Int64.toInt_ofNat_of_lt hcpus]
  exact Int.bmod_eq_of_le (by omega) (by omega)

/-- What is left of the processors, computed in words. -/
theorem toNat_max_add_of_neg (hcpus : cpus < 2 ^ 63) {n : Int64} (h : n < 0) :
    (max ((UInt64.ofNat cpus).toInt64 + n) 1).toUInt64.toNat = (max (cpus + n.toInt) 1).toNat := by
  have hmax : (max ((UInt64.ofNat cpus).toInt64 + n) 1).toInt = max (cpus + n.toInt) 1 := by
    rw [toInt_max, UInt64.toInt64_ofNat', toInt_add_of_neg hcpus h]
    rfl
  rw [toNat_toUInt64, hmax]
  rw [hmax]
  exact le_max_of_le_right Int.one_nonneg

theorem ofInt?_toInt_of_pos {n : Int64} (h : 0 < n) : ofInt? cpus n.toInt = some (count n.toUInt64.toNat) := by
  have hpos : 0 < n.toInt := Int64.lt_iff_toInt_lt.1 h
  rw [ofInt?_of_pos hpos, toNat_toUInt64 hpos.le]

theorem ofInt?_toInt_of_neg (hcpus : cpus < 2 ^ 63) {n : Int64} (h : n < 0) :
    ofInt? cpus n.toInt = some (count (max ((UInt64.ofNat cpus).toInt64 + n) 1).toUInt64.toNat) := by
  rw [ofInt?_of_neg (Int64.lt_iff_toInt_lt.1 h), toNat_max_add_of_neg hcpus h]

/-- A word is positive if it is neither zero nor negative. -/
theorem pos_of_not_neg {n : Int64} (hzero : n ≠ 0) (hneg : ¬n < 0) : 0 < n := by
  rw [Int64.lt_iff_toInt_lt] at hneg ⊢
  exact lt_of_le_of_ne (not_lt.1 hneg) fun h => hzero (Int64.toInt_inj.1 h.symm)

/-- **A text's word loses nothing.** -/
theorem ofWord?_eq (hcpus : cpus < 2 ^ 63) (n : Int64) : ofWord? (.ofNat cpus) n = ofInt? cpus n.toInt := by
  rw [ofWord?]
  split_ifs with hzero hneg
  · rw [hzero]
    rfl
  · exact (ofInt?_toInt_of_neg hcpus hneg).symm
  · exact (ofInt?_toInt_of_pos (pos_of_not_neg hzero hneg)).symm

/-- **An integer of a file loses nothing.** -/
theorem ofInteger?_eq (hcpus : cpus < 2 ^ 63) (n : Int64) :
    ofInteger? (.ofNat cpus) n = ofInt? cpus n.toInt := by
  rw [ofInteger?]
  cases hcompare : compare n 0 with
  | gt => exact (ofInt?_toInt_of_pos (Std.compare_eq_gt.1 hcompare)).symm
  | lt => exact (ofInt?_toInt_of_neg hcpus (Std.compare_eq_lt.1 hcompare)).symm
  | eq =>
    rw [Std.LawfulEqOrd.eq_of_compare hcompare]
    rfl

/-- Zero alone is no answer, whatever the processors. -/
theorem ofWord?_eq_none_iff {words : UInt64} {n : Int64} : ofWord? words n = none ↔ n = 0 := by
  rw [ofWord?]
  split_ifs with hzero hneg
  · exact ⟨fun _ => hzero, fun _ => rfl⟩
  · exact ⟨nofun, fun h => absurd h hzero⟩
  · exact ⟨nofun, fun h => absurd h hzero⟩

/-! ### From texts -/

/-- A word is read off the numerals of its number. -/
theorem readSigned?_eq_some_iff {n : Int64} : readSigned? text = some n ↔ Decimal.Denotes text n.toInt := by
  simp only [readSigned?, Option.map_eq_some_iff, Option.filter_eq_some_iff, Decimal.readInt?_eq_some_iff,
    Bool.and_eq_true, decide_eq_true_iff]
  constructor
  · rintro ⟨n, ⟨hdenotes, hle, hge⟩, rfl⟩
    rwa [Int64.toInt_ofInt_of_le hle (Int.lt_of_le_sub_one hge)]
  · intro hdenotes
    exact ⟨n.toInt, ⟨hdenotes, n.minValue_le_toInt, n.toInt_le⟩, Int64.ofInt_toInt n⟩

/-- The word for as many as there are processors is no numeral. -/
theorem not_denotes_processorsWord : ¬ Decimal.Denotes processorsWord n := by
  intro h
  have hread : Decimal.readInt? processorsWord = none := by decide
  exact nomatch (Decimal.readInt?_eq_some_iff.2 h).symm.trans hread

/-- **What a text asks for.** -/
theorem ofText_eq_ok_iff :
    ofText cpus text = .ok threads ↔
      text = processorsWord ∧ threads = processors ∨
        ∃ n : Int64, Decimal.Denotes text n.toInt ∧ ofWord? (.ofNat cpus) n = some threads := by
  rw [ofText]
  split_ifs with hword
  · rw [Except.ok.injEq, eq_comm]
    refine ⟨fun h => .inl ⟨hword, h⟩, ?_⟩
    rintro (⟨-, h⟩ | ⟨n, hn, -⟩)
    · exact h
    · exact absurd (hword ▸ hn) not_denotes_processorsWord
  · have hiff : (readSigned? text).bind (ofWord? (.ofNat cpus)) = some threads ↔
        ∃ n : Int64, Decimal.Denotes text n.toInt ∧ ofWord? (.ofNat cpus) n = some threads := by
      simp only [Option.bind_eq_some_iff, readSigned?_eq_some_iff]
    rw [or_iff_right fun h => hword h.1, ← hiff]
    cases (readSigned? text).bind (ofWord? (.ofNat cpus)) with
    | none => exact ⟨nofun, nofun⟩
    | some found => rw [Except.ok.injEq, Option.some.injEq]

/-- A text that is not accepted is what the complaint names. -/
theorem ofText_eq_error {err : ThreadsError} (h : ofText cpus text = .error err) : err = { text } := by
  rw [ofText] at h
  split_ifs at h
  cases hread : (readSigned? text).bind (ofWord? (.ofNat cpus)) with
  | none =>
    rw [hread] at h
    exact (Except.error.inj h).symm
  | some found =>
    rw [hread] at h
    exact nomatch h

/-- **All numerals of an integer of 64 bits are read as the integer.** -/
theorem toOption_ofText {n : Int64} (hdenotes : Decimal.Denotes text n.toInt) :
    (ofText cpus text).toOption = ofWord? (.ofNat cpus) n := by
  have hword : text ≠ processorsWord := fun heq => not_denotes_processorsWord (heq ▸ hdenotes)
  rw [ofText, if_neg hword, readSigned?_eq_some_iff.2 hdenotes, Option.bind_some]
  cases ofWord? (.ofNat cpus) n <;> rfl

/-- **A text is accepted** if it is the word, or denotes an integer of 64 bits that is not zero. -/
theorem exists_ofText_iff :
    (∃ threads, ofText cpus text = .ok threads) ↔
      text = processorsWord ∨ ∃ n, Decimal.Denotes text n ∧ n ≠ 0 ∧ -2 ^ 63 ≤ n ∧ n < 2 ^ 63 := by
  constructor
  · rintro ⟨threads, h⟩
    obtain ⟨hword, -⟩ | ⟨n, hdenotes, hthreads⟩ := ofText_eq_ok_iff.1 h
    · exact .inl hword
    · refine .inr ⟨n.toInt, hdenotes, fun hzero => ?_, n.le_toInt, n.toInt_lt⟩
      have hnone : ofWord? (.ofNat cpus) n = none := ofWord?_eq_none_iff.2 (Int64.toInt_inj.1 hzero)
      exact nomatch hthreads.symm.trans hnone
  · rintro (rfl | ⟨n, hdenotes, hzero, hle, hlt⟩)
    · exact ⟨processors, ofText_eq_ok_iff.2 (.inl ⟨rfl, rfl⟩)⟩
    · have hn : (Int64.ofInt n).toInt = n := Int64.toInt_ofInt_of_le hle hlt
      have hne : Int64.ofInt n ≠ 0 := fun h => hzero (by rw [← hn, h]; rfl)
      obtain ⟨threads, hthreads⟩ := Option.ne_none_iff_exists'.1 (mt ofWord?_eq_none_iff.1 hne)
      exact ⟨threads, ofText_eq_ok_iff.2 (.inr ⟨_, hn.symm ▸ hdenotes, hthreads⟩)⟩

/-! ### What is accepted -/

/-- A number of binaries that is shown by a text for itself: the word, or a number of 64 bits that is not zero. -/
inductive IsProper : Threads → Prop
  | number {k : Nat} (hpos : 1 ≤ k) (hk : k < 2 ^ 63) : IsProper (count k)
  | word : IsProper processors

theorem isProper_of_ofInt? (hcpus : cpus < 2 ^ 63) (hn : n < 2 ^ 63) (h : ofInt? cpus n = some threads) :
    threads.IsProper := by
  obtain ⟨k, rfl, hpos, hk⟩ := exists_count_of_ofInt? h
  exact .number hpos (hk hcpus hn)

/-- **What is shown is read back.** -/
theorem ofText_write (hcpus : cpus < 2 ^ 63) (h : threads.IsProper) : ofText cpus threads.write = .ok threads := by
  refine ofText_eq_ok_iff.2 ?_
  cases h with
  | @number k hpos hk =>
    have hn : (Int64.ofNat k).toInt = k := Int64.toInt_ofNat_of_lt hk
    refine .inr ⟨.ofNat k, hn.symm ▸ Decimal.denotes_write k, ?_⟩
    rw [ofWord?_eq hcpus, hn, ofInt?_of_pos (Int.natCast_pos.2 hpos), Int.toNat_natCast]
  | word => exact .inl ⟨rfl, rfl⟩

theorem isProper_of_ofText (hcpus : cpus < 2 ^ 63) (h : ofText cpus text = .ok threads) : threads.IsProper := by
  obtain ⟨-, rfl⟩ | ⟨n, -, hthreads⟩ := ofText_eq_ok_iff.1 h
  · exact .word
  · rw [ofWord?_eq hcpus] at hthreads
    exact isProper_of_ofInt? hcpus n.toInt_lt hthreads

theorem toOption_toThreads (origin : Option Text) (n : Int64) :
    ((Value.plain origin (.integer n.toInt)).toThreads cpus).toOption = ofInteger? (.ofNat cpus) n := by
  rw [Value.toThreads, Int64.ofInt_toInt]
  cases ofInteger? (.ofNat cpus) n <;> rfl

/-- **What a value asks for.** -/
theorem toThreads_eq_ok_iff {value : Value} :
    value.toThreads cpus = .ok threads ↔
      (∃ origin, value = .plain origin (.string processorsWord)) ∧ threads = processors ∨
        ∃ origin n, value = .plain origin (.integer n) ∧
          ofInteger? (.ofNat cpus) (.ofInt n) = some threads := by
  constructor
  · intro h
    unfold Value.toThreads at h
    split at h
    · next origin n =>
      cases hread : ofInteger? (.ofNat cpus) (.ofInt n) with
      | none =>
        rw [hread] at h
        exact nomatch h
      | some found =>
        rw [hread] at h
        exact .inr ⟨origin, n, rfl, hread.trans (congrArg some (Except.ok.inj h))⟩
    · next origin word =>
      split_ifs at h with hword
      subst hword
      exact .inl ⟨⟨origin, rfl⟩, (Except.ok.inj h).symm⟩
    · exact nomatch h
  · rintro (⟨⟨origin, rfl⟩, rfl⟩ | ⟨origin, n, rfl, hthreads⟩)
    · rfl
    · rw [Value.toThreads, hthreads]

theorem isProper_of_toThreads (hcpus : cpus < 2 ^ 63) {value : Value} (h : value.toThreads cpus = .ok threads) :
    threads.IsProper := by
  obtain ⟨-, rfl⟩ | ⟨origin, n, rfl, hthreads⟩ := toThreads_eq_ok_iff.1 h
  · exact .word
  · rw [ofInteger?_eq hcpus] at hthreads
    exact isProper_of_ofInt? hcpus (Int64.toInt_lt _) hthreads

theorem IsProper.one_le (h : (count k).IsProper) : 1 ≤ k := by
  cases h with
  | number hpos => exact hpos

/-- **Texts and integers ask for the same numbers of binaries.**  Of each integer of 64 bits, all its numerals,
the integer itself and the conversions of both in words give one result; the numbers are not zero; and what is accepted from
a text or from a value is shown by a text for itself. -/
theorem readers_agree (hcpus : cpus < 2 ^ 63) :
    (∀ (n : Int64) (text : Text) (origin : Option Text), Decimal.Denotes text n.toInt →
      ∃ result : Option Threads,
        (ofText cpus text).toOption = result ∧
        ((Value.plain origin (.integer n.toInt)).toThreads cpus).toOption = result ∧
        ofWord? (.ofNat cpus) n = result ∧ ofInteger? (.ofNat cpus) n = result ∧
        (n = 0 → result = none) ∧
        (0 < n → result = some (count n.toInt.toNat)) ∧
        (n < 0 → result = some (count (max (cpus + n.toInt) 1).toNat) ∧
          (Int64.ofNat cpus + n).toInt = cpus + n.toInt)) ∧
      (∀ n : Int64, Decimal.Denotes (Decimal.writeInt n.toInt) n.toInt) ∧
      (∀ text, (∃ threads, ofText cpus text = .ok threads) ↔
        text = processorsWord ∨ ∃ n, Decimal.Denotes text n ∧ n ≠ 0 ∧ -2 ^ 63 ≤ n ∧ n < 2 ^ 63) ∧
      (∀ text err, ofText cpus text = .error err → err = { text }) ∧
      (∀ text threads, ofText cpus text = .ok threads →
        (∀ k, threads = count k → 1 ≤ k) ∧ ofText cpus threads.write = .ok threads) ∧
      ∀ (value : Value) (threads : Threads), value.toThreads cpus = .ok threads →
        (∀ k, threads = count k → 1 ≤ k) ∧ ofText cpus threads.write = .ok threads := by
  refine ⟨fun n text origin hdenotes => ?_, fun n => Decimal.denotes_writeInt _, fun _ => exists_ofText_iff,
    fun _ _ => ofText_eq_error, fun text threads h => ?_, fun value threads h => ?_⟩
  · refine ⟨ofInt? cpus n.toInt, (toOption_ofText hdenotes).trans (ofWord?_eq hcpus n),
      (toOption_toThreads origin n).trans (ofInteger?_eq hcpus n), ofWord?_eq hcpus n,
      ofInteger?_eq hcpus n, fun hzero => ?_, fun hpos => ?_, fun hneg => ⟨?_, toInt_add_of_neg hcpus hneg⟩⟩
    · rw [hzero]
      rfl
    · exact ofInt?_of_pos (Int64.lt_iff_toInt_lt.1 hpos)
    · exact ofInt?_of_neg (Int64.lt_iff_toInt_lt.1 hneg)
  · have hproper := isProper_of_ofText hcpus h
    exact ⟨fun k hk => (hk ▸ hproper).one_le, ofText_write hcpus hproper⟩
  · have hproper := isProper_of_toThreads hcpus h
    exact ⟨fun k hk => (hk ▸ hproper).one_le, ofText_write hcpus hproper⟩

/-- The least integer of 64 bits asks for one binary of four processors, as a text and in a file, and the number
is shown by a text for itself. -/
theorem readers_agree_leastInteger :
    4 < 2 ^ 63 ∧ (ofText 4 "-9223372036854775808".toList).toOption = some (count 1) ∧
      ((Value.plain none (.integer (-9223372036854775808))).toThreads 4).toOption = some (count 1) ∧
      ofText 4 "-9223372036854775808".toList = .ok (count 1) ∧ ofText 4 "1".toList = .ok (count 1) := by
  have hcpus : 4 < 2 ^ 63 := by decide
  obtain ⟨hintegers, hwritten, -, -, htexts, -⟩ := readers_agree hcpus
  obtain ⟨result, htext, hvalue, -, -, -, -, hneg⟩ :=
    hintegers Int64.minValue _ none (hwritten Int64.minValue)
  obtain ⟨hresult, -⟩ := hneg (by decide)
  have hone : result = some (count 1) := hresult
  have hword : Decimal.writeInt Int64.minValue.toInt = "-9223372036854775808".toList := by decide
  rw [hword, hone] at htext
  rw [hone] at hvalue
  have haccepted : ofText 4 "-9223372036854775808".toList = .ok (count 1) := by decide
  exact ⟨hcpus, htext, hvalue, haccepted, (htexts _ _ haccepted).2⟩

end Threads
end Settings
end TestBench
