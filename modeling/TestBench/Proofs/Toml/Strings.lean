/-
# Texts in quotes

A text of printable characters, with no quote and no backslash among them, stands between two quotes as it is.  It is
read up to the second quote, whatever follows (`Toml.lineString?_append`), and so is the value that it is
(`Toml.value?_quoted`).  An empty text is left out: its quotes are the start of three if a third one follows.
-/

import Mathlib.Tactic.Common
import TestBench.Toml.Document

namespace TestBench
namespace Toml

/-- A character that needs no escape between quotes. -/
def IsUnescaped (c : Char) : Prop := isPlain c = true ∧ c ≠ '"' ∧ c ≠ '\\'

variable {text : Text}

/-- Read in steps, of which there are more than characters. -/
theorem lineString?_append (h : ∀ c ∈ text, IsUnescaped c) {steps : Nat} (hsteps : text.length < steps) (rest : Text) :
    lineString? '"' true steps (text ++ '"' :: rest) = some (text, rest) := by
  induction text generalizing steps with
  | nil =>
    obtain ⟨steps, rfl⟩ := Nat.exists_eq_succ_of_ne_zero (Nat.ne_of_gt hsteps)
    rfl
  | cons c text ih =>
    obtain ⟨steps, rfl⟩ := Nat.exists_eq_succ_of_ne_zero (Nat.ne_of_gt (Nat.zero_lt_of_lt hsteps))
    obtain ⟨hplain, hquote, hescape⟩ := h c List.mem_cons_self
    have hrest := ih (fun c hc => h c (List.mem_cons_of_mem _ hc)) (Nat.lt_of_succ_lt_succ hsteps)
    rw [List.cons_append, Nat.succ_eq_add_one, lineString?, if_neg hquote, if_neg fun hc => hescape hc.2, if_pos hplain,
      hrest]
    rfl

/-- It is no text of several lines, since its first character is no quote. -/
theorem stringValue?_quoted (hne : text ≠ []) (h : ∀ c ∈ text, IsUnescaped c) (rest : Text) :
    stringValue? '"' (text ++ '"' :: rest) = some (text, rest) := by
  have hlength : text.length < (text ++ '"' :: rest).length + 1 := by
    rw [List.length_append]
    omega
  have hline := lineString?_append h hlength rest
  obtain ⟨first, behind, rfl⟩ := List.exists_cons_of_ne_nil hne
  have hquote : first ≠ '"' := (h first List.mem_cons_self).2.1
  have hmore : behind ++ '"' :: rest ≠ [] := by simp
  obtain ⟨second, more, hmore⟩ := List.exists_cons_of_ne_nil hmore
  rw [List.cons_append, hmore] at hline ⊢
  rw [stringValue?]
  dsimp only
  rw [if_neg fun heq => hquote heq.1]
  exact hline

/-- **A text in quotes is a value**, whatever follows. -/
theorem value?_quoted (hne : text ≠ []) (h : ∀ c ∈ text, IsUnescaped c) (depth : Nat) (rest : Text) :
    value? (depth + 1) ('"' :: (text ++ '"' :: rest)) = some (.scalar (.string text), rest) := by
  rw [value?, if_pos (.inl rfl), stringValue?_quoted hne h]
  rfl

end Toml
end TestBench
