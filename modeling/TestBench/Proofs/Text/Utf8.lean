/-
# Decoding undoes encoding

`Utf8.decodeInitial` recognizes a character by the ranges of its bytes.  The ranges are the right ones:
bytes are recognized as a character exactly if they are its encoding (`pair?_eq_some_iff`,
`triple?_eq_some_iff`, `quadruple?_eq_some_iff`).  So what is decoded is what was encoded, and bytes are
well-formed throughout exactly if they encode some text (`toText?_eq_some_iff`).  Of other bytes it is
found out how far they do (`decode?_eq_error`).

Only the first byte of a character does not continue one, so the bytes of a character stand among those of a text only
where the character stands in it (`exists_eq_append_cons_of_encode_eq`).
-/

import TestBench.Text.Utf8
import Mathlib.Order.Bounds.Defs
import Mathlib.Tactic.SplitIfs

namespace TestBench
namespace Utf8

/-- The bytes are those of a text. -/
def IsText (bytes : Bytes) : Prop := ∃ text, encode text = bytes

theorem toNat_byte {n : Nat} (h : n < 256) : (UInt8.ofNat n).toNat = n := by
  rw [UInt8.toNat_ofNat', Nat.mod_eq_of_lt h]

theorem eq_byte_iff {a : UInt8} {n : Nat} (h : n < 256) : UInt8.ofNat n = a ↔ a.toNat = n := by
  rw [← UInt8.toNat_inj, toNat_byte h, eq_comm]

/-- The number of a character is no surrogate and below the bound of Unicode. -/
theorem toNat_valid (ch : Char) : ch.toNat < 0xD800 ∨ 0xDFFF < ch.toNat ∧ ch.toNat < 0x110000 :=
  ch.valid

/-- The character of a number that is one. -/
theorem ofNat_eq_iff {n : Nat} (h : n < 0xD800 ∨ 0xDFFF < n ∧ n < 0x110000) {ch : Char} :
    Char.ofNat n = ch ↔ ch.toNat = n := by
  have hn : (Char.ofNat n).toNat = n := by
    unfold Char.ofNat
    rw [dif_pos h]
    rfl
  constructor
  · rintro rfl
    exact hn
  · rintro rfl
    exact Char.ofNat_toNat ch

/-! ### The ranges of the bytes -/

theorem isContinuation_iff {b : UInt8} :
    isContinuation b = true ↔ 0x80 ≤ b.toNat ∧ b.toNat ≤ 0xBF := by
  simp [isContinuation, UInt8.le_iff_toNat_le]

/-- The announced length, by the number of the first byte. -/
theorem announcedLength?_eq (a : UInt8) :
    announcedLength? a = if a.toNat < 0x80 then some 1
      else if 0xC2 ≤ a.toNat ∧ a.toNat ≤ 0xDF then some 2
      else if 0xE0 ≤ a.toNat ∧ a.toNat ≤ 0xEF then some 3
      else if 0xF0 ≤ a.toNat ∧ a.toNat ≤ 0xF4 then some 4
      else none := by
  simp only [announcedLength?, UInt8.le_iff_toNat_le, UInt8.lt_iff_toNat_lt, UInt8.reduceToNat,
    Bool.and_eq_true, decide_eq_true_eq]

theorem announcedLength?_eq_two_iff {a : UInt8} :
    announcedLength? a = some 2 ↔ 0xC2 ≤ a.toNat ∧ a.toNat ≤ 0xDF := by
  rw [announcedLength?_eq]
  split_ifs <;> simp <;> omega

theorem announcedLength?_eq_three_iff {a : UInt8} :
    announcedLength? a = some 3 ↔ 0xE0 ≤ a.toNat ∧ a.toNat ≤ 0xEF := by
  rw [announcedLength?_eq]
  split_ifs <;> simp <;> omega

theorem announcedLength?_eq_four_iff {a : UInt8} :
    announcedLength? a = some 4 ↔ 0xF0 ≤ a.toNat ∧ a.toNat ≤ 0xF4 := by
  rw [announcedLength?_eq]
  split_ifs <;> simp <;> omega

theorem isSecond_iff {a b : UInt8} :
    isSecond a b = true ↔ (0x80 ≤ b.toNat ∧ b.toNat ≤ 0xBF) ∧ (a.toNat = 0xE0 → 0xA0 ≤ b.toNat) ∧
      (a.toNat = 0xED → b.toNat ≤ 0x9F) ∧ (a.toNat = 0xF0 → 0x90 ≤ b.toNat) ∧
      (a.toNat = 0xF4 → b.toNat ≤ 0x8F) := by
  simp only [isSecond, isContinuation, ← UInt8.toNat_inj, UInt8.reduceToNat]
  split_ifs <;> simp only [Bool.and_eq_true, decide_eq_true_eq, UInt8.le_iff_toNat_le,
    UInt8.reduceToNat] <;> omega

/-! ### Characters and their bytes -/

theorem encodeChar_eq_single_iff {ch : Char} {a : UInt8} :
    encodeChar ch = [a] ↔ ch.toNat < 0x80 ∧ a.toNat = ch.toNat := by
  simp only [encodeChar]
  split_ifs with h₁ h₂ h₃
  · simp [eq_byte_iff (show ch.toNat < 256 by omega), h₁]
  all_goals simp [h₁]

theorem encodeChar_eq_pair_iff {ch : Char} {a b : UInt8} :
    encodeChar ch = [a, b] ↔ (0x80 ≤ ch.toNat ∧ ch.toNat < 0x800) ∧
      a.toNat = 0xC0 + ch.toNat / 64 ∧ b.toNat = 0x80 + ch.toNat % 64 := by
  simp only [encodeChar]
  split_ifs with h₁ h₂ h₃
  · simp; omega
  · rw [List.cons.injEq, List.cons.injEq, eq_byte_iff (by omega), eq_byte_iff (by omega)]
    simp; omega
  · simp; omega
  · simp; omega

theorem encodeChar_eq_triple_iff {ch : Char} {a b c : UInt8} :
    encodeChar ch = [a, b, c] ↔ (0x800 ≤ ch.toNat ∧ ch.toNat < 0x10000) ∧
      a.toNat = 0xE0 + ch.toNat / 4096 ∧ b.toNat = 0x80 + ch.toNat / 64 % 64 ∧
      c.toNat = 0x80 + ch.toNat % 64 := by
  simp only [encodeChar]
  split_ifs with h₁ h₂ h₃
  · simp; omega
  · simp; omega
  · rw [List.cons.injEq, List.cons.injEq, List.cons.injEq, eq_byte_iff (by omega),
      eq_byte_iff (by omega), eq_byte_iff (by omega)]
    simp; omega
  · simp; omega

theorem encodeChar_eq_quadruple_iff {ch : Char} {a b c d : UInt8} :
    encodeChar ch = [a, b, c, d] ↔ 0x10000 ≤ ch.toNat ∧ a.toNat = 0xF0 + ch.toNat / 262144 ∧
      b.toNat = 0x80 + ch.toNat / 4096 % 64 ∧ c.toNat = 0x80 + ch.toNat / 64 % 64 ∧
      d.toNat = 0x80 + ch.toNat % 64 := by
  have hvalid := toNat_valid ch
  simp only [encodeChar]
  split_ifs with h₁ h₂ h₃
  · simp; omega
  · simp; omega
  · simp; omega
  · rw [List.cons.injEq, List.cons.injEq, List.cons.injEq, List.cons.injEq, eq_byte_iff (by omega),
      eq_byte_iff (by omega), eq_byte_iff (by omega), eq_byte_iff (by omega)]
    simp; omega

/-- A pair is recognized as the character that it encodes. -/
theorem pair?_eq_some_iff {a b : UInt8} {ch : Char} : pair? a b = some ch ↔ encodeChar ch = [a, b] := by
  simp only [encodeChar_eq_pair_iff, pair?, announcedLength?_eq_two_iff, isContinuation_iff]
  split_ifs with h
  · rw [Option.some.injEq, ofNat_eq_iff (by omega)]
    omega
  · simp only [false_iff]
    omega

/-- A triple is recognized as the character that it encodes. -/
theorem triple?_eq_some_iff {a b c : UInt8} {ch : Char} :
    triple? a b c = some ch ↔ encodeChar ch = [a, b, c] := by
  have hvalid := toNat_valid ch
  simp only [encodeChar_eq_triple_iff, triple?, announcedLength?_eq_three_iff, isSecond_iff,
    isContinuation_iff]
  split_ifs with h
  · rw [Option.some.injEq, ofNat_eq_iff (by omega)]
    omega
  · simp only [false_iff]
    omega

/-- A quadruple is recognized as the character that it encodes. -/
theorem quadruple?_eq_some_iff {a b c d : UInt8} {ch : Char} :
    quadruple? a b c d = some ch ↔ encodeChar ch = [a, b, c, d] := by
  have hvalid := toNat_valid ch
  simp only [encodeChar_eq_quadruple_iff, quadruple?, announcedLength?_eq_four_iff, isSecond_iff,
    isContinuation_iff]
  split_ifs with h
  · rw [Option.some.injEq, ofNat_eq_iff (by omega)]
    omega
  · simp only [false_iff]
    omega

/-! ### Texts and their bytes -/

theorem lt_iff_toNat_lt {a : UInt8} : a < 0x80 ↔ a.toNat < 0x80 := by
  simp only [UInt8.lt_iff_toNat_lt, UInt8.reduceToNat]

/-- A byte below the others is the character of its number. -/
theorem encodeChar_ofNat_of_lt {a : UInt8} (h : a < 0x80) :
    encodeChar (Char.ofNat a.toNat) = [a] := by
  have ha := lt_iff_toNat_lt.1 h
  have hch : (Char.ofNat a.toNat).toNat = a.toNat := (ofNat_eq_iff (by omega)).1 rfl
  rw [encodeChar_eq_single_iff, hch]
  exact ⟨ha, rfl⟩

/-- A character has one to four bytes. -/
theorem encodeChar_cases (ch : Char) :
    (∃ a, encodeChar ch = [a]) ∨ (∃ a b, encodeChar ch = [a, b]) ∨
      (∃ a b c, encodeChar ch = [a, b, c]) ∨ ∃ a b c d, encodeChar ch = [a, b, c, d] := by
  simp only [encodeChar]
  split_ifs
  · exact .inl ⟨_, rfl⟩
  · exact .inr (.inl ⟨_, _, rfl⟩)
  · exact .inr (.inr (.inl ⟨_, _, _, rfl⟩))
  · exact .inr (.inr (.inr ⟨_, _, _, _, rfl⟩))

/-- A byte below the others is a character by itself. -/
theorem encodeChar_of_mem_of_lt {ch : Char} {a : UInt8} (hmem : a ∈ encodeChar ch) (hlt : a < 0x80) :
    encodeChar ch = [a] := by
  rw [lt_iff_toNat_lt] at hlt
  rcases encodeChar_cases ch with ⟨a', h⟩ | ⟨a', b, h⟩ | ⟨a', b, c, h⟩ | ⟨a', b, c, d, h⟩
  · rw [h, List.mem_singleton] at hmem
    rw [h, hmem]
  · have hrange := encodeChar_eq_pair_iff.1 h
    rw [h] at hmem
    simp only [List.mem_cons, List.not_mem_nil, or_false] at hmem
    rcases hmem with rfl | rfl <;> omega
  · have hrange := encodeChar_eq_triple_iff.1 h
    rw [h] at hmem
    simp only [List.mem_cons, List.not_mem_nil, or_false] at hmem
    rcases hmem with rfl | rfl | rfl <;> omega
  · have hrange := encodeChar_eq_quadruple_iff.1 h
    rw [h] at hmem
    simp only [List.mem_cons, List.not_mem_nil, or_false] at hmem
    rcases hmem with rfl | rfl | rfl | rfl <;> omega

/-- A character is decoded before what follows it. -/
theorem decodeInitial_encodeChar_append (ch : Char) (rest : Bytes) :
    decodeInitial (encodeChar ch ++ rest)
      = (ch :: (decodeInitial rest).1, (decodeInitial rest).2) := by
  rcases encodeChar_cases ch with ⟨a, h⟩ | ⟨a, b, h⟩ | ⟨a, b, c, h⟩ | ⟨a, b, c, d, h⟩
  · obtain ⟨hlt, ha⟩ := encodeChar_eq_single_iff.1 h
    have hfirst : a < 0x80 := lt_iff_toNat_lt.2 (by omega)
    rw [h, List.singleton_append, decodeInitial.eq_def]
    dsimp only
    rw [if_pos hfirst, ha, Char.ofNat_toNat]
  · have hrange := encodeChar_eq_pair_iff.1 h
    have hfirst : ¬a < 0x80 := by
      rw [lt_iff_toNat_lt]
      omega
    rw [h, List.cons_append, List.cons_append, List.nil_append, decodeInitial.eq_def]
    dsimp only
    rw [if_neg hfirst, pair?_eq_some_iff.2 h]
  · have hrange := encodeChar_eq_triple_iff.1 h
    have hfirst : ¬a < 0x80 := by
      rw [lt_iff_toNat_lt]
      omega
    have hpair : pair? a b = none := by
      rw [pair?, if_neg]
      rw [announcedLength?_eq_two_iff]
      omega
    rw [h, List.cons_append, List.cons_append, List.cons_append, List.nil_append,
      decodeInitial.eq_def]
    dsimp only
    rw [if_neg hfirst, hpair, triple?_eq_some_iff.2 h]
  · have hrange := encodeChar_eq_quadruple_iff.1 h
    have hfirst : ¬a < 0x80 := by
      rw [lt_iff_toNat_lt]
      omega
    have hpair : pair? a b = none := by
      rw [pair?, if_neg]
      rw [announcedLength?_eq_two_iff]
      omega
    have htriple : triple? a b c = none := by
      rw [triple?, if_neg]
      rw [announcedLength?_eq_three_iff]
      omega
    rw [h, List.cons_append, List.cons_append, List.cons_append, List.cons_append, List.nil_append,
      decodeInitial.eq_def]
    dsimp only
    rw [if_neg hfirst, hpair, htriple, quadruple?_eq_some_iff.2 h]

/-- What was encoded is decoded. -/
theorem decodeInitial_encode (text : Text) : decodeInitial (encode text) = (text, []) := by
  induction text with
  | nil => rfl
  | cons ch text ih => rw [encode_cons, decodeInitial_encodeChar_append, ih]

/-- The bytes of a text have no malformed part. -/
theorem decodeLossy_encode (text : Text) : decodeLossy (encode text) = text := by
  rw [decodeLossy, decodeLossySteps, decodeInitial_encode]

/-- What is decoded was encoded. -/
theorem encode_decodeInitial_append (bytes : Bytes) :
    encode (decodeInitial bytes).1 ++ (decodeInitial bytes).2 = bytes := by
  fun_induction decodeInitial bytes with
  | case1 => rfl
  | case2 a r h text rest hrest ih =>
    rw [hrest] at ih
    rw [encode_cons, encodeChar_ofNat_of_lt h, List.append_assoc, ih, List.singleton_append]
  | case3 => rfl
  | case4 a h b r ch hpair text rest hrest ih =>
    rw [hrest] at ih
    rw [encode_cons, pair?_eq_some_iff.1 hpair, List.append_assoc, ih]
    rfl
  | case5 => rfl
  | case6 a h b hpair c r ch htriple text rest hrest ih =>
    rw [hrest] at ih
    rw [encode_cons, triple?_eq_some_iff.1 htriple, List.append_assoc, ih]
    rfl
  | case7 => rfl
  | case8 a h b hpair c htriple d r ch hquadruple text rest hrest ih =>
    rw [hrest] at ih
    rw [encode_cons, quadruple?_eq_some_iff.1 hquadruple, List.append_assoc, ih]
    rfl
  | case9 => rfl

/-- **Bytes decode to the text that they encode, and to nothing if they encode none.** -/
theorem decode?_eq_ok_iff {bytes : Bytes} {text : Text} :
    decode? bytes = .ok text ↔ encode text = bytes := by
  constructor
  · intro h
    have hbytes := encode_decodeInitial_append bytes
    rw [decode?] at h
    split at h
    next found hfound =>
      obtain rfl := Except.ok.inj h
      rw [hfound, List.append_nil] at hbytes
      exact hbytes
    next => simp at h
  · rintro rfl
    rw [decode?, decodeInitial_encode]

theorem toText?_eq_some_iff {bytes : Bytes} {text : Text} :
    toText? bytes = some text ↔ encode text = bytes := by
  rw [← decode?_eq_ok_iff, toText?]
  cases decode? bytes with
  | error n => simp [Except.toOption]
  | ok found => simp [Except.toOption]

/-- A text is decoded before what follows it. -/
theorem decodeInitial_encode_append (text : Text) (rest : Bytes) :
    decodeInitial (encode text ++ rest) = (text ++ (decodeInitial rest).1, (decodeInitial rest).2) := by
  induction text with
  | nil => rfl
  | cons ch text ih =>
    rw [encode_cons, List.append_assoc, decodeInitial_encodeChar_append, ih]
    rfl

theorem length_decodeInitial_le (bytes : Bytes) : (decodeInitial bytes).2.length ≤ bytes.length := by
  have hlength := congrArg List.length (encode_decodeInitial_append bytes)
  rw [List.length_append] at hlength
  omega

/-- **Bytes that are no text** are text up to where the decoding stops, and no further. -/
theorem decode?_eq_error {bytes : Bytes} {n : Nat} (h : decode? bytes = .error n) :
    ¬IsText bytes ∧ IsGreatest {m | m ≤ bytes.length ∧ IsText (bytes.take m)} n := by
  have hbytes := encode_decodeInitial_append bytes
  have hn : bytes.length - (decodeInitial bytes).2.length = n := by
    rw [decode?] at h
    split at h
    next => simp at h
    next heq =>
      rw [heq]
      exact Except.error.inj h
  have hle := length_decodeInitial_le bytes
  refine ⟨?_, ⟨by omega, (decodeInitial bytes).1, ?_⟩, ?_⟩
  · rintro ⟨text, htext⟩
    exact absurd ((decode?_eq_ok_iff.2 htext).symm.trans h) (by simp)
  · have hlength := congrArg List.length hbytes
    rw [List.length_append] at hlength
    have htake : (encode (decodeInitial bytes).1 ++ (decodeInitial bytes).2).take n
        = encode (decodeInitial bytes).1 := List.take_left' (by omega)
    rw [hbytes] at htake
    exact htake.symm
  · rintro m ⟨hm, text, htext⟩
    -- A text in front is decoded whole, so that what is left lies behind it.
    have hrest := decodeInitial_encode_append text (bytes.drop m)
    rw [htext, List.take_append_drop] at hrest
    have hlast := length_decodeInitial_le (bytes.drop m)
    rw [List.length_drop, ← congrArg Prod.snd hrest] at hlast
    omega

/-- A text has its own bytes. -/
theorem encode_injective {s t : Text} (h : encode s = encode t) : s = t := by
  have hs := decode?_eq_ok_iff.2 (rfl : encode s = encode s)
  have ht := decode?_eq_ok_iff.2 h.symm
  exact Except.ok.inj (hs.symm.trans ht)

theorem encode_singleton (c : Char) : encode [c] = encodeChar c := by simp

theorem encodeChar_injective {a b : Char} (h : encodeChar a = encodeChar b) : a = b := by
  rw [← encode_singleton, ← encode_singleton] at h
  exact (List.cons.inj (encode_injective h)).1

/-- A character of one byte stands in a text where its byte stands in those of the text. -/
theorem mem_of_mem_encode {ch : Char} {a : UInt8} {text : Text} (hch : encodeChar ch = [a]) (h : a ∈ encode text) :
    ch ∈ text := by
  obtain ⟨other, hother, hmem⟩ := List.mem_flatMap.1 h
  obtain ⟨hlt, hnumber⟩ := encodeChar_eq_single_iff.1 hch
  have hencode := encodeChar_of_mem_of_lt hmem (lt_iff_toNat_lt.2 (by omega))
  rwa [encodeChar_injective (hencode.trans hch.symm)] at hother

theorem mem_encode_iff {ch : Char} {a : UInt8} {text : Text} (hch : encodeChar ch = [a]) :
    a ∈ encode text ↔ ch ∈ text := by
  refine ⟨mem_of_mem_encode hch, fun h => List.mem_flatMap.2 ⟨ch, h, ?_⟩⟩
  rw [hch]
  exact List.mem_singleton_self a

/-- What stands behind a text in the bytes of a text is a text. -/
theorem exists_eq_append_of_encode_eq {s t : Text} {rest : Bytes} (h : encode s = encode t ++ rest) :
    ∃ r, encode r = rest ∧ s = t ++ r := by
  have hdecoded := decodeInitial_encode_append t rest
  rw [← h, decodeInitial_encode] at hdecoded
  have hs : s = t ++ (decodeInitial rest).1 := congrArg Prod.fst hdecoded
  refine ⟨(decodeInitial rest).1, ?_, hs⟩
  rw [hs, encode_append] at h
  exact List.append_cancel_left h

/-! ### A character inside of bytes -/

/-- The bytes behind the first one of a character continue it, and the first one continues none. -/
theorem encodeChar_eq_cons (ch : Char) : ∃ first tail, encodeChar ch = first :: tail ∧
    isContinuation first = false ∧ ∀ b ∈ tail, isContinuation b = true := by
  simp only [← Bool.not_eq_true, isContinuation_iff]
  rcases encodeChar_cases ch with ⟨a, h⟩ | ⟨a, b, h⟩ | ⟨a, b, c, h⟩ | ⟨a, b, c, d, h⟩
  · have hrange := encodeChar_eq_single_iff.1 h
    exact ⟨a, [], h, by omega, nofun⟩
  · have hrange := encodeChar_eq_pair_iff.1 h
    exact ⟨a, [b], h, by omega, by simp; omega⟩
  · have hrange := encodeChar_eq_triple_iff.1 h
    exact ⟨a, [b, c], h, by omega, by simp; omega⟩
  · have hrange := encodeChar_eq_quadruple_iff.1 h
    exact ⟨a, [b, c, d], h, by omega, by simp; omega⟩

/-- A character does not start inside another one. -/
theorem eq_nil_of_encodeChar_append {ch other : Char} {front back rest rest' : Bytes}
    (hother : encodeChar other = front ++ back) (hback : back ≠ [])
    (hch : encodeChar ch ++ rest = back ++ rest') : front = [] := by
  obtain ⟨first, tail, hcons, hfirst, -⟩ := encodeChar_eq_cons ch
  obtain ⟨first', tail', hcons', -, htail'⟩ := encodeChar_eq_cons other
  obtain ⟨b, back, rfl⟩ := List.exists_cons_of_ne_nil hback
  rw [hcons, List.cons_append, List.cons_append] at hch
  obtain rfl := (List.cons.inj hch).1
  cases front with
  | nil => rfl
  | cons a front =>
    rw [hcons', List.cons_append] at hother
    have hmem : first ∈ tail' := by simp [(List.cons.inj hother).2]
    exact absurd (htail' first hmem) (by simp [hfirst])

/-- **Where the bytes of a character stand in those of a text, the character stands in the text.** -/
theorem exists_eq_append_cons_of_encode_eq {s : Text} {ch : Char} {front rest : Bytes}
    (h : encode s = front ++ (encodeChar ch ++ rest)) :
    ∃ before after, s = before ++ ch :: after ∧ encode after = rest := by
  induction s generalizing front with
  | nil =>
    obtain ⟨first, tail, hcons, -⟩ := encodeChar_eq_cons ch
    simp [hcons] at h
  | cons other s ih =>
    have hlater {front : Bytes} (h : encode s = front ++ (encodeChar ch ++ rest)) :
        ∃ before after, other :: s = before ++ ch :: after ∧ encode after = rest := by
      obtain ⟨before, after, rfl, hafter⟩ := ih h
      exact ⟨other :: before, after, rfl, hafter⟩
    rw [encode_cons, List.append_eq_append_iff] at h
    obtain ⟨front', -, h⟩ | ⟨back, hother, h⟩ := h
    · exact hlater h
    by_cases hback : back = []
    · rw [hback, List.nil_append] at h
      exact @hlater [] h.symm
    · obtain rfl := eq_nil_of_encodeChar_append hother hback h
      have hwhole : encode (other :: s) = encode [ch] ++ rest := by
        rw [encode_cons, hother, List.nil_append, ← h, encode_singleton]
      obtain ⟨after, hafter, hs⟩ := exists_eq_append_of_encode_eq hwhole
      exact ⟨[], after, hs, hafter⟩

/-- The text has only characters of one byte. -/
def IsAscii (text : Text) : Prop := ∀ ch ∈ text, ch.toNat < 0x80

instance (text : Text) : Decidable (IsAscii text) := List.decidableBAll _ text

theorem isAscii_append_iff {s t : Text} : IsAscii (s ++ t) ↔ IsAscii s ∧ IsAscii t := List.forall_mem_append

theorem length_encodeChar_eq_one_iff {ch : Char} : (encodeChar ch).length = 1 ↔ ch.toNat < 0x80 := by
  rw [List.length_eq_one_iff]
  constructor
  · rintro ⟨a, h⟩
    exact (encodeChar_eq_single_iff.1 h).1
  · intro h
    exact ⟨UInt8.ofNat ch.toNat, by simp [encodeChar, h]⟩

theorem IsAscii.length_encode {text : Text} (h : IsAscii text) : (encode text).length = text.length := by
  induction text with
  | nil => rfl
  | cons ch text ih =>
    obtain ⟨hch, htext⟩ := List.forall_mem_cons.1 h
    rw [encode_cons, List.length_append, length_encodeChar_eq_one_iff.2 hch, ih htext, List.length_cons]
    omega

/-- A text of characters of one byte can be divided at any byte. -/
theorem IsAscii.exists_eq_append {text : Text} {front rest : Bytes} (hascii : IsAscii text)
    (h : encode text = front ++ rest) :
    ∃ before after, text = before ++ after ∧ encode before = front ∧ encode after = rest := by
  refine ⟨text.take front.length, text.drop front.length, (List.take_append_drop _ _).symm, ?_⟩
  have hlength : (encode (text.take front.length)).length = front.length := by
    have htext := congrArg List.length h
    rw [hascii.length_encode, List.length_append] at htext
    rw [IsAscii.length_encode fun ch hmem => hascii ch (List.mem_of_mem_take hmem), List.length_take]
    omega
  rw [← List.take_append_drop front.length text, encode_append] at h
  exact List.append_inj h hlength

end Utf8
end TestBench
