/-
# Patterns without classes and groups

A plain pattern has stars, never two side by side, question marks and ordinary characters.  It is read as one token
a character (`parse_of_isPlain`), and matches a name iff the name can be divided along it (`Fits`):

| character | its piece of the name |
| --- | --- |
| star | any |
| question mark | one unit |
| ordinary | the character |

The unit is the byte, since names are matched as their bytes (`NamePattern.isMatch_of_isPlain`).  It is the character
as well if every character of the name has one byte, or if the pattern has no question mark to count them.
-/

import Mathlib.Data.List.Chain
import Mathlib.Data.List.Forall2
import TestBench.Glob.NamePattern
import TestBench.Proofs.Glob.Marks
import TestBench.Proofs.Text.Utf8

namespace TestBench
namespace Glob

/-! ### Reading a plain pattern -/

/-- The character has no meaning in patterns but itself, and separates no components. -/
def IsOrdinary (c : Char) : Prop :=
  c ∉ ['*', '?', '[', ']', '\x7b', '\x7d', ',', '!', '\\', '/']

instance (c : Char) : Decidable (IsOrdinary c) := inferInstanceAs (Decidable (c ∉ _))

/-- The pattern has stars, question marks and ordinary characters, and no two stars side by side. -/
structure IsPlain (text : Text) : Prop where
  chars : ∀ c ∈ text, c = '*' ∨ c = '?' ∨ IsOrdinary c
  apart : text.IsChain fun a b => ¬(a = '*' ∧ b = '*')

instance (text : Text) : Decidable (IsPlain text) :=
  -- The characters of the text are looked at, not all characters there are.
  let _ : Decidable (∀ c ∈ text, c = '*' ∨ c = '?' ∨ IsOrdinary c) := List.decidableBAll _ text
  decidable_of_iff (_ ∧ _) ⟨fun h => ⟨h.1, h.2⟩, fun h => ⟨h.chars, h.apart⟩⟩

/-- What a character of a plain pattern means. -/
def plainToken (c : Char) : Token :=
  if c = '*' then .star else if c = '?' then .any else .literal c

namespace IsPlain

variable {c : Char} {text : Text}

theorem head (h : IsPlain (c :: text)) : c = '*' ∨ c = '?' ∨ IsOrdinary c := h.chars c List.mem_cons_self

theorem tail (h : IsPlain (c :: text)) : IsPlain text :=
  ⟨fun c' hmem => h.chars c' (List.mem_cons_of_mem _ hmem), (List.isChain_cons.1 h.apart).2⟩

theorem not_star_of_star (h : IsPlain ('*' :: text)) : text.head? ≠ some '*' := fun hhead =>
  (List.isChain_cons.1 h.apart).1 '*' hhead ⟨rfl, rfl⟩

end IsPlain

namespace State

variable {c : Char} {before last : Option Char} {tokens : List Token}

/-- The tokens have been read, last first. -/
def outside (last : Option Char) (tokens : List Token) : State := { mode := .normal, last, tokens, groups := [] }

/-- The tokens have been read, and a star behind them. -/
def behindStar (before last : Option Char) (tokens : List Token) : State :=
  { mode := .star before, last, tokens, groups := [] }

theorem normalStep_of_plain (hc : c = '?' ∨ IsOrdinary c) :
    (outside last tokens).normalStep c = .ok (outside last (plainToken c :: tokens)) := by
  rcases hc with rfl | hc
  · rfl
  · simp only [IsOrdinary, List.mem_cons, List.not_mem_nil, or_false, not_or] at hc
    simp [normalStep, plainToken, hc, push, outside]

theorem step_outside (hc : c = '?' ∨ IsOrdinary c) :
    (outside last tokens).step c = .ok (outside (some c) (plainToken c :: tokens)) := by
  have hread : (outside last tokens).read c = (outside last tokens).normalStep c := rfl
  rw [step, hread, normalStep_of_plain hc]
  rfl

theorem step_outside_star : (outside last tokens).step '*' = .ok (behindStar last (some '*') tokens) := rfl

/-- A star is a token as soon as no star follows it. -/
theorem step_behindStar (hc : c = '?' ∨ IsOrdinary c) :
    (behindStar before last tokens).step c = .ok (outside (some c) (plainToken c :: .star :: tokens)) := by
  have hstar : c ≠ '*' := by
    rintro rfl
    exact absurd hc (by decide)
  have hread : (behindStar before last tokens).read c = (outside last (.star :: tokens)).normalStep c := if_neg hstar
  rw [step, hread, normalStep_of_plain hc]
  rfl

/-- A plain text is read as its tokens, whether a star waits in front of it or not. -/
theorem foldlM_step_of_isPlain {text : Text} (h : IsPlain text) :
    (∀ last tokens, (text.foldlM step (outside last tokens) >>= finish)
      = .ok (tokens.reverse ++ text.map plainToken)) ∧
    (text.head? ≠ some '*' → ∀ before last tokens, (text.foldlM step (behindStar before last tokens) >>= finish)
      = .ok (tokens.reverse ++ .star :: text.map plainToken)) := by
  induction text with
  | nil =>
    refine ⟨fun last tokens => ?_, fun _ before last tokens => ?_⟩
    · exact congrArg Except.ok (List.append_nil _).symm
    · exact congrArg Except.ok List.reverse_cons
  | cons c text ih =>
    obtain ⟨houtside, hbehind⟩ := ih h.tail
    rcases h.head with rfl | hc
    · refine ⟨fun last tokens => ?_, fun hhead => absurd rfl hhead⟩
      rw [List.foldlM_cons, step_outside_star]
      exact hbehind h.not_star_of_star last (some '*') tokens
    · constructor
      · intro last tokens
        rw [List.foldlM_cons, step_outside hc]
        refine (houtside (some c) (plainToken c :: tokens)).trans ?_
        simp
      · intro _ before last tokens
        rw [List.foldlM_cons, step_behindStar hc]
        refine (houtside (some c) (plainToken c :: .star :: tokens)).trans ?_
        simp

end State

/-- **A plain pattern is read as one token a character.** -/
theorem parse_of_isPlain {text : Text} (h : IsPlain text) : parse text = .ok (text.map plainToken) :=
  (State.foldlM_step_of_isPlain h).1 none []

/-! ### Names divided along a pattern -/

section Fits

variable {α : Type*} {unit : Char → List α} {c : Char} {text : Text} {name rest : List α}

/-- The piece of a name that a character of a plain pattern takes, where `unit` spells a character. -/
def Takes (unit : Char → List α) (c : Char) (piece : List α) : Prop :=
  if c = '*' then True else if c = '?' then piece.length = 1 else piece = unit c

instance [DecidableEq α] (piece : List α) : Decidable (Takes unit c piece) :=
  inferInstanceAs (Decidable (if c = '*' then True else if c = '?' then piece.length = 1 else piece = unit c))

/-- The name can be divided along the pattern, one piece for each character. -/
def Fits (unit : Char → List α) (text : Text) (name : List α) : Prop :=
  ∃ pieces, List.Forall₂ (Takes unit) text pieces ∧ pieces.flatten = name

theorem fits_nil_iff : Fits unit [] name ↔ name = [] := by
  simp [Fits, eq_comm]

theorem fits_cons_iff :
    Fits unit (c :: text) name ↔ ∃ piece rest, Takes unit c piece ∧ Fits unit text rest ∧ piece ++ rest = name := by
  constructor
  · rintro ⟨pieces, hpieces, rfl⟩
    obtain ⟨piece, others, hpiece, hothers, rfl⟩ := List.forall₂_cons_left_iff.1 hpieces
    exact ⟨piece, others.flatten, hpiece, ⟨others, hothers, rfl⟩, rfl⟩
  · rintro ⟨piece, rest, hpiece, ⟨others, hothers, rfl⟩, rfl⟩
    exact ⟨piece :: others, .cons hpiece hothers, rfl⟩

end Fits

/-! ### Matching -/

section Matching

variable {c : Char} {text : Text} {marks : Marks} {name rest : Bytes}

theorem fit_move_plainToken (hfit : marks.Fit name) : ((plainToken c).move name marks).Fit name := by
  unfold plainToken
  split_ifs
  · exact hfit.spread
  · exact hfit.advance
  · exact hfit.foldl_advance

/-- A character of a plain pattern moves the marks over the pieces that it takes. -/
theorem before_move_plainToken_iff (hfit : marks.Fit name) (hslash : slash ∉ name) :
    ((plainToken c).move name marks).Before name rest ↔
      ∃ piece, Takes Utf8.encodeChar c piece ∧ marks.Before name (piece ++ rest) := by
  -- What a mark stands before has no slash either.
  have hpiece {piece : Bytes} (h : marks.Before name (piece ++ rest)) : ∀ b ∈ piece, (b != slash) = true := by
    intro b hb
    have hmem : b ∈ name := h.suffix.subset (List.mem_append_left _ hb)
    exact bne_iff_ne.2 fun heq => hslash (heq ▸ hmem)
  unfold plainToken Takes
  split_ifs with hstar hany
  · simp only [Token.move]
    rw [Marks.before_spread_iff hfit]
    constructor
    · rintro ⟨run, -, h⟩
      exact ⟨run, trivial, h⟩
    · rintro ⟨piece, -, h⟩
      exact ⟨piece, hpiece h, h⟩
  · simp only [Token.move]
    rw [Marks.before_advance_iff]
    constructor
    · rintro ⟨b, -, h⟩
      exact ⟨[b], rfl, h⟩
    · rintro ⟨piece, hlength, h⟩
      obtain ⟨b, rfl⟩ := List.length_eq_one_iff.1 hlength
      exact ⟨b, hpiece h b List.mem_cons_self, h⟩
  · simp only [Token.move]
    rw [Marks.before_foldl_advance_iff]
    simp

/-- A plain pattern moves the marks over the beginnings that it fits. -/
theorem before_movePattern_iff (hfit : marks.Fit name) (hslash : slash ∉ name) :
    (movePattern name (text.map plainToken) marks).Before name rest ↔
      ∃ front, Fits Utf8.encodeChar text front ∧ marks.Before name (front ++ rest) := by
  induction text generalizing marks with
  | nil => simp [movePattern, fits_nil_iff]
  | cons c text ih =>
    rw [List.map_cons, movePattern, ih (fit_move_plainToken hfit)]
    simp only [before_move_plainToken_iff hfit hslash, fits_cons_iff]
    constructor
    · rintro ⟨front, hfront, piece, hpiece, h⟩
      exact ⟨piece ++ front, ⟨piece, front, hpiece, hfront, rfl⟩, by rwa [List.append_assoc]⟩
    · rintro ⟨_, ⟨piece, front, hpiece, hfront, rfl⟩, h⟩
      exact ⟨front, hfront, piece, hpiece, by rwa [← List.append_assoc]⟩

theorem fit_movePattern (hfit : marks.Fit name) : (movePattern name (text.map plainToken) marks).Fit name := by
  induction text generalizing marks with
  | nil => exact hfit
  | cons c text ih => exact ih (fit_move_plainToken hfit)

/-- The tokens of a plain pattern match the names that the pattern fits. -/
theorem isMatch_map_plainToken_iff (hslash : slash ∉ name) :
    Pattern.isMatch (text.map plainToken) name = true ↔ Fits Utf8.encodeChar text name := by
  have hmove : Pattern.isMatch (text.map plainToken) name
      = (movePattern name (text.map plainToken) (Marks.first name)).reachesEnd := by
    unfold Pattern.isMatch
    split
    next hcomponents =>
      -- No character means components.
      obtain ⟨c, _, -, hc, -⟩ := List.map_eq_cons_iff.1 hcomponents
      revert hc
      unfold plainToken
      split_ifs <;> exact nofun
    next => rfl
  have hfirst := Marks.fit_first name
  rw [hmove, Marks.reachesEnd_iff (fit_movePattern hfirst), before_movePattern_iff hfirst hslash]
  simp [Marks.before_first_iff]

end Matching

/-! ### Bytes and characters -/

section Characters

variable {text name : Text} {front rest : Bytes}

/-- The bytes of a piece are taken as the piece is, unless a question mark takes a character of several bytes. -/
theorem takes_encode_iff {c : Char} {piece : Text} (h : c ≠ '?' ∨ Utf8.IsAscii piece) :
    Takes Utf8.encodeChar c (Utf8.encode piece) ↔ Takes List.singleton c piece := by
  unfold Takes
  split_ifs with hstar hmark
  · rfl
  · rw [(h.resolve_left (not_not_intro hmark)).length_encode]
  · rw [← Utf8.encode_singleton]
    exact ⟨Utf8.encode_injective, congrArg Utf8.encode⟩

/-- What fits the pattern as characters fits it as bytes, if no question mark takes a character of several bytes. -/
theorem fits_encode (h : '?' ∉ text ∨ Utf8.IsAscii name) (hfits : Fits List.singleton text name) :
    Fits Utf8.encodeChar text (Utf8.encode name) := by
  induction text generalizing name with
  | nil =>
    rw [fits_nil_iff] at hfits ⊢
    rw [hfits, Utf8.encode_nil]
  | cons c text ih =>
    rw [fits_cons_iff] at hfits ⊢
    obtain ⟨piece, rest, hpiece, hrest, rfl⟩ := hfits
    rw [List.mem_cons, not_or, Utf8.isAscii_append_iff] at h
    have hhead := h.imp (fun h => Ne.symm h.1) And.left
    have htail := h.imp And.right And.right
    exact ⟨Utf8.encode piece, Utf8.encode rest, (takes_encode_iff hhead).2 hpiece, ih htail hrest,
      (Utf8.encode_append _ _).symm⟩

/-- In a name of characters of one byte the pieces of bytes are pieces of characters. -/
theorem fits_of_isAscii (hascii : Utf8.IsAscii name) (h : Fits Utf8.encodeChar text (Utf8.encode name)) :
    Fits List.singleton text name := by
  induction text generalizing name with
  | nil =>
    rw [fits_nil_iff] at h ⊢
    exact Utf8.encode_injective h
  | cons c text ih =>
    rw [fits_cons_iff] at h ⊢
    obtain ⟨piece, rest, hpiece, hrest, hname⟩ := h
    obtain ⟨before, after, rfl, rfl, rfl⟩ := hascii.exists_eq_append hname.symm
    obtain ⟨hbefore, hafter⟩ := Utf8.isAscii_append_iff.1 hascii
    exact ⟨before, after, (takes_encode_iff (.inr hbefore)).1 hpiece, ih hafter hrest, rfl⟩

/-- Without a question mark, a star can only be followed by whole characters. -/
theorem fits_of_no_mark (hmark : '?' ∉ text) :
    (∀ name, Fits Utf8.encodeChar text (Utf8.encode name) → Fits List.singleton text name) ∧
    (∀ name front rest, Utf8.encode name = front ++ rest → Fits Utf8.encodeChar text rest →
      ∃ before after, name = before ++ after ∧ Fits List.singleton text after) := by
  induction text with
  | nil =>
    simp only [fits_nil_iff]
    exact ⟨fun name h => Utf8.encode_injective h, fun name _ _ _ _ => ⟨name, [], (List.append_nil _).symm, rfl⟩⟩
  | cons c text ih =>
    obtain ⟨hwhole, hbehind⟩ := ih fun hmem => hmark (List.mem_cons_of_mem _ hmem)
    have hany : c ≠ '?' := fun heq => hmark (heq ▸ List.mem_cons_self)
    simp only [fits_cons_iff, Takes, if_neg hany]
    split_ifs with hstar
    · constructor
      · rintro name ⟨piece, rest, -, hrest, hname⟩
        obtain ⟨before, after, rfl, hafter⟩ := hbehind name piece rest hname.symm hrest
        exact ⟨before, after, trivial, hafter, rfl⟩
      · rintro name front _ hname ⟨piece, rest, -, hrest, rfl⟩
        rw [← List.append_assoc] at hname
        obtain ⟨before, after, rfl, hafter⟩ := hbehind name _ rest hname hrest
        exact ⟨before, after, rfl, [], after, trivial, hafter, rfl⟩
    · constructor
      · rintro name ⟨_, rest, rfl, hrest, hname⟩
        rw [← Utf8.encode_singleton] at hname
        obtain ⟨after, rfl, rfl⟩ := Utf8.exists_eq_append_of_encode_eq hname.symm
        exact ⟨[c], after, rfl, hwhole after hrest, rfl⟩
      · rintro name front _ hname ⟨_, rest, rfl, hrest, rfl⟩
        obtain ⟨before, after, rfl, rfl⟩ := Utf8.exists_eq_append_cons_of_encode_eq hname
        exact ⟨before, c :: after, rfl, [c], after, rfl, hwhole after hrest, rfl⟩

/-- **Bytes fit a pattern as the characters do** if the pattern has no question mark or the name has no character of
several bytes. -/
theorem fits_encode_iff (h : '?' ∉ text ∨ Utf8.IsAscii name) :
    Fits Utf8.encodeChar text (Utf8.encode name) ↔ Fits List.singleton text name :=
  ⟨h.elim (fun hmark => (fits_of_no_mark hmark).1 name) fits_of_isAscii, fits_encode h⟩

theorem slash_notMem_encode (h : '/' ∉ name) : slash ∉ Utf8.encode name := fun hmem =>
  h (Utf8.mem_of_mem_encode (by decide) hmem)

end Characters

namespace NamePattern

/-- **A plain pattern matches the names whose bytes can be divided along it**: a question mark takes one byte, a star
any number of bytes, and an ordinary character its own bytes.  Their characters can be divided along it as well if each
of them has one byte, or if the pattern has no question mark. -/
theorem isMatch_of_isPlain {text : Text} (h : IsPlain text) :
    ∃ p, ofText text = .ok p ∧ ∀ name, '/' ∉ name →
      (p.isMatch name = true ↔ Fits Utf8.encodeChar text (Utf8.encode name)) ∧
      ('?' ∉ text ∨ Utf8.IsAscii name → (p.isMatch name = true ↔ Fits List.singleton text name)) := by
  refine ⟨{ text, pattern := text.map plainToken }, ?_, fun name hname => ?_⟩
  · rw [ofText, parse_of_isPlain h]
  · have hbytes : Pattern.isMatch (text.map plainToken) (Utf8.encode name) = true ↔
        Fits Utf8.encodeChar text (Utf8.encode name) := isMatch_map_plainToken_iff (slash_notMem_encode hname)
    exact ⟨hbytes, fun hunit => hbytes.trans (fits_encode_iff hunit)⟩

/-- A question mark takes a character of one byte. -/
theorem isMatch_of_isPlain_oneByte : IsPlain "?_*s".toList ∧ ∃ p, ofText "?_*s".toList = .ok p ∧
    (p.isMatch "a_tests".toList = true ↔ Fits List.singleton "?_*s".toList "a_tests".toList) ∧
    p.isMatch "a_tests".toList = true := by
  have hplain : IsPlain "?_*s".toList := by decide
  obtain ⟨p, hp, hmatch⟩ := isMatch_of_isPlain hplain
  have hlaw := (hmatch "a_tests".toList (by decide)).2 (.inr (by decide))
  refine ⟨hplain, p, hp, hlaw, hlaw.2 ?_⟩
  exact ⟨["a".toList, "_".toList, "test".toList, "s".toList], by decide, rfl⟩

/-- A question mark does not take a character of two bytes. -/
theorem not_isMatch_iff_fits : ¬∀ text, IsPlain text → ∃ p, ofText text = .ok p ∧ ∀ name, '/' ∉ name →
    (p.isMatch name = true ↔ Fits List.singleton text name) := by
  intro h
  obtain ⟨p, hp, hmatch⟩ := h "?_tests".toList (by decide)
  obtain rfl := Except.ok.inj hp
  have hfits : Fits List.singleton "?_tests".toList "é_tests".toList :=
    ⟨"é_tests".toList.map List.singleton, by decide, rfl⟩
  exact absurd ((hmatch "é_tests".toList (by decide)).2 hfits) (by decide)

end NamePattern
end Glob
end TestBench
