/-
# Quoted words are read back

Words that are written as a command line are the words of that command line, whatever characters they have
and however many there are (`split?_join`).

| a word | is written | and read |
| --- | --- | --- |
| with plain characters only | as it is | from the place between words, character by character |
| with any others, or empty | between single quotes | inside of the quotes, but for the quotes of its own |

Either way the reader of the line stands in the word when it is through, and has the whole of it
(`leads_quote`).
-/

import TestBench.Shell.Words

namespace TestBench
namespace Shell

/-- From the one place, `s` leads to the other and ends no word. -/
def Leads (place : Place) (s : Text) (next : Place) : Prop :=
  ∀ rest, splitFrom? place (s ++ rest) = splitFrom? next rest

namespace Leads

variable {place middle next : Place} {s t : Text} {c : Char}

theorem nil (place : Place) : Leads place [] place := fun _ => rfl

theorem single (h : place.step c = (next, none)) : Leads place [c] next := by
  intro rest
  rw [List.singleton_append, splitFrom?, h]
  exact Option.map_id_apply

theorem append (hs : Leads place s middle) (ht : Leads middle t next) : Leads place (s ++ t) next := by
  intro rest
  rw [List.append_assoc, hs, ht]

theorem cons (h : place.step c = (middle, none)) (ht : Leads middle t next) : Leads place (c :: t) next :=
  (single h).append ht

end Leads

/-! ### Between single quotes -/

theorem leads_quoteChar (word : Text) (c : Char) : Leads (.single word) (quoteChar c) (.single (c :: word)) := by
  rw [quoteChar]
  split
  next hc =>
    -- The quotes are closed, the quote stands behind a backslash, and they are opened again.
    subst hc
    exact ((Leads.nil _).cons rfl).cons rfl |>.cons rfl |>.cons rfl
  next hc => exact .single (by simp [Place.step, hc])

theorem leads_quoteChars (word s : Text) :
    Leads (.single word) (s.flatMap quoteChar) (.single (s.reverse ++ word)) := by
  induction s generalizing word with
  | nil => exact .nil _
  | cons c s ih =>
    rw [List.flatMap_cons, List.reverse_cons, List.append_assoc]
    exact (leads_quoteChar word c).append (ih (c :: word))

/-! ### Outside of quotes -/

theorem ne_of_not_needsQuotes {c mark : Char} (h : needsQuotes c = false) (hmark : needsQuotes mark = true) :
    c ≠ mark := by
  rintro rfl
  exact Bool.false_ne_true (h.symm.trans hmark)

/-- A character that needs no quotes is not special to the reader. -/
theorem not_special_of_not_needsQuotes {c : Char} (h : needsQuotes c = false) :
    c ≠ '\'' ∧ c ≠ '"' ∧ c ≠ '\\' ∧ isSeparator c = false ∧ c ≠ '#' := by
  have hspace : c ≠ ' ' := ne_of_not_needsQuotes h (by decide)
  have htab : c ≠ '\t' := ne_of_not_needsQuotes h (by decide)
  have hnewline : c ≠ '\n' := ne_of_not_needsQuotes h (by decide)
  exact ⟨ne_of_not_needsQuotes h (by decide), ne_of_not_needsQuotes h (by decide),
    ne_of_not_needsQuotes h (by decide), by simp [isSeparator, hspace, htab, hnewline],
    ne_of_not_needsQuotes h (by decide)⟩

theorem step_between_of_not_needsQuotes {c : Char} (h : needsQuotes c = false) :
    Place.between.step c = (.plain [c], none) := by
  obtain ⟨hsingle, hdouble, hbackslash, hseparator, hcomment⟩ := not_special_of_not_needsQuotes h
  simp [Place.step, hsingle, hdouble, hbackslash, hseparator, hcomment]

theorem step_plain_of_not_needsQuotes {c : Char} (h : needsQuotes c = false) (word : Text) :
    (Place.plain word).step c = (.plain (c :: word), none) := by
  obtain ⟨hsingle, hdouble, hbackslash, hseparator, -⟩ := not_special_of_not_needsQuotes h
  simp [Place.step, hsingle, hdouble, hbackslash, hseparator]

theorem leads_plain {s : Text} (h : ∀ c ∈ s, needsQuotes c = false) (word : Text) :
    Leads (.plain word) s (.plain (s.reverse ++ word)) := by
  induction s generalizing word with
  | nil => exact .nil _
  | cons c s ih =>
    rw [List.forall_mem_cons] at h
    rw [List.reverse_cons, List.append_assoc]
    exact (ih h.2 (c :: word)).cons (step_plain_of_not_needsQuotes h.1 word)

/-! ### Words -/

/-- **A word as it is written leads into this word**, from between words. -/
theorem leads_quote (word : Text) : Leads .between (quote word) (.plain word.reverse) := by
  rw [quote]
  split
  next hplain =>
    obtain ⟨hne, hnone⟩ := hplain
    obtain ⟨c, s, rfl⟩ := List.exists_cons_of_ne_nil hne
    have hall : ∀ c' ∈ c :: s, needsQuotes c' = false := by simpa using hnone
    rw [List.forall_mem_cons] at hall
    rw [List.reverse_cons]
    exact (leads_plain hall.2 [c]).cons (step_between_of_not_needsQuotes hall.1)
  next =>
    have hinside := leads_quoteChars [] word
    rw [List.append_nil] at hinside
    exact (hinside.append (.single rfl)).cons rfl

/-- **Words are read back from the command line that they are written as.** -/
theorem split?_join (words : List Text) : split? (join words) = some words := by
  induction words with
  | nil => rfl
  | cons word words ih =>
    rw [split?]
    cases words with
    | nil =>
      have hword := leads_quote word []
      rw [List.append_nil] at hword
      rw [join, List.map_singleton, joinWith, hword]
      simp [splitFrom?, Place.finish?]
    | cons word' words =>
      have hline : join (word :: word' :: words) = quote word ++ ' ' :: join (word' :: words) := by
        simp [join, joinWith]
      have hend : (Place.plain word.reverse).step ' ' = (.between, some word) := by
        simp [Place.step, isSeparator]
      rw [hline, leads_quote, splitFrom?, hend]
      rw [split?] at ih
      simp [ih]

end Shell
end TestBench
