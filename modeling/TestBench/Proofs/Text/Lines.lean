/-
# Lines, by the line feeds of a text

`Text.lines` reads a text from the left and decides at each character whether a line ends.  The rule
it follows is said of the whole text: cut it at its line feeds (`splitAll`); a piece that a line feed
ends is a line, less one carriage return at its end; the last piece, which nothing ends, is a line as
it stands unless it is empty.  `lines_eq_ofPieces` is the agreement of the two.

So a line feed settles the lines before it, whatever follows (`lines_append_newline`).  A text is the part
up to its last line feed, `ended`, and what stands behind it, `openLine`.
-/

import TestBench.Text.Lines
import Mathlib.Data.List.DropRight
import Mathlib.Tactic.ByContra
import Mathlib.Tactic.SplitIfs

namespace TestBench
namespace Text

/-- A line without the carriage return that belongs to its end. -/
def withoutReturn (piece : Text) : Text :=
  if piece.getLast? = some '\r' then piece.dropLast else piece

/-- The lines that the pieces between line feeds make up. -/
def ofPieces : List Text → List Text
  | [] => []
  | [last] => if last = [] then [] else [last]
  | piece :: next :: pieces => withoutReturn piece :: ofPieces (next :: pieces)

theorem ofPieces_cons {pieces : List Text} (h : pieces ≠ []) (piece : Text) :
    ofPieces (piece :: pieces) = withoutReturn piece :: ofPieces pieces := by
  obtain ⟨next, pieces, rfl⟩ := List.exists_cons_of_ne_nil h
  rfl

/-- A character in front of a piece stays there, unless it is the carriage return of the line end. -/
theorem withoutReturn_cons {c : Char} {piece : Text} (h : piece = [] → c ≠ '\r') :
    withoutReturn (c :: piece) = c :: withoutReturn piece := by
  unfold withoutReturn
  cases piece with
  | nil =>
    have hc : c ≠ '\r' := h rfl
    simp [hc]
  | cons d piece =>
    rw [List.getLast?_cons_cons]
    split_ifs with hlast
    · rfl
    · rfl

/-- The piece that a text begins with is empty only if the text is, or begins with a line feed. -/
theorem head_of_splitAll_nil_cons {s : Text} {pieces : List Text}
    (h : splitAll (· == '\n') s = [] :: pieces) (hp : pieces ≠ []) :
    ∃ rest, s = '\n' :: rest := by
  cases s with
  | nil =>
    rw [splitAll, List.cons.injEq] at h
    exact absurd h.2.symm hp
  | cons c s =>
    by_cases hc : c = '\n'
    · exact ⟨s, by rw [hc]⟩
    · have hc' : (c == '\n') = false := by simpa using hc
      simp only [splitAll, hc', Bool.false_eq_true, if_false] at h
      split at h <;> simp at h

/-- **A line is what stands between line feeds.** -/
theorem lines_eq_ofPieces (s : Text) : lines s = ofPieces (splitAll (· == '\n') s) := by
  fun_induction lines s with
  | case1 => rfl
  | case2 s ih =>
    rw [ih]
    have hs : splitAll (· == '\n') ('\n' :: s) = [] :: splitAll (· == '\n') s := rfl
    rw [hs, ofPieces_cons (splitAll_ne_nil _ _)]
    rfl
  | case3 s ih =>
    rw [ih]
    have hs : splitAll (· == '\n') ('\r' :: '\n' :: s) = ['\r'] :: splitAll (· == '\n') s := rfl
    rw [hs, ofPieces_cons (splitAll_ne_nil _ _)]
    rfl
  | case4 c s hn hr ih =>
    have hc : (c == '\n') = false := by
      by_contra hc
      exact hn (by simpa using hc)
    obtain ⟨piece, pieces, hs⟩ := List.exists_cons_of_ne_nil (splitAll_ne_nil (· == '\n') s)
    have hcs : splitAll (· == '\n') (c :: s) = (c :: piece) :: pieces := by
      simp only [splitAll, hc, hs, Bool.false_eq_true, if_false]
    rw [ih, hs, hcs]
    cases pieces with
    | nil =>
      by_cases hp : piece = []
      · subst hp; rfl
      · simp [ofPieces, hp, extendFirst]
    | cons next pieces =>
      rw [ofPieces_cons (List.cons_ne_nil _ _), ofPieces_cons (List.cons_ne_nil _ _), extendFirst,
        withoutReturn_cons]
      intro hp hcr
      subst hp hcr
      obtain ⟨rest, rfl⟩ := head_of_splitAll_nil_cons hs (List.cons_ne_nil _ _)
      exact hr rest rfl rfl

/-! ### Texts in two parts -/

theorem ofPieces_append {pieces : List Text} (before : List Text) (h : pieces ≠ []) :
    ofPieces (before ++ pieces) = before.map withoutReturn ++ ofPieces pieces := by
  induction before with
  | nil => rfl
  | cons piece before ih =>
    have hrest : before ++ pieces ≠ [] := List.append_ne_nil_of_right_ne_nil before h
    rw [List.cons_append, ofPieces_cons hrest, ih, List.map_cons, List.cons_append]

/-- **A line feed settles the lines before it.** -/
theorem lines_append_newline (s t : Text) :
    lines (s ++ '\n' :: t) = (splitAll (· == '\n') s).map withoutReturn ++ lines t := by
  have hsplit := splitAll_append_cons (p := (· == '\n')) (beq_self_eq_true '\n') s t
  rw [lines_eq_ofPieces, hsplit, ofPieces_append _ (splitAll_ne_nil _ _), ← lines_eq_ofPieces]

/-- Without a line feed there is one piece. -/
theorem splitAll_newline_of_notMem {s : Text} (h : '\n' ∉ s) : splitAll (· == '\n') s = [s] :=
  splitAll_of_forall_not fun _ hc => beq_false_of_ne (ne_of_mem_of_not_mem hc h)

theorem lines_of_notMem {s : Text} (h : '\n' ∉ s) : lines s = if s = [] then [] else [s] := by
  rw [lines_eq_ofPieces, splitAll_newline_of_notMem h]
  rfl

/-- The text up to its last line feed. -/
def ended (s : Text) : Text := s.rdropWhile (· != '\n')

/-- What stands behind the last line feed of a text. -/
def openLine (s : Text) : Text := s.rtakeWhile (· != '\n')

theorem ended_append_openLine (s : Text) : ended s ++ openLine s = s :=
  List.rdropWhile_append_rtakeWhile ..

theorem newline_notMem_openLine (s : Text) : '\n' ∉ openLine s := by
  intro h
  simpa using List.mem_rtakeWhile_imp h

/-- Behind a line feed no line is open. -/
theorem openLine_eq_nil {s : Text} (h : s = [] ∨ s.getLast? = some '\n') : openLine s = [] := by
  rw [openLine, List.rtakeWhile_eq_nil_iff]
  rintro hne hlast
  rcases h with rfl | h
  · exact hne rfl
  · rw [List.getLast?_eq_getLast_of_ne_nil hne, Option.some.injEq] at h
    simp [h] at hlast

/-- The lines that are ended go up to a line feed. -/
theorem ended_eq_nil_or (s : Text) : ended s = [] ∨ ∃ before, ended s = before ++ ['\n'] := by
  by_cases hnil : ended s = []
  · exact .inl hnil
  · have hnewline : (ended s).getLast hnil = '\n' :=
      not_not.1 fun h => List.rdropWhile_last_not (· != '\n') s hnil (bne_iff_ne.2 h)
    refine .inr ⟨(ended s).dropLast, ?_⟩
    rw [← hnewline, List.dropLast_append_getLast]

/-- **What follows a text adds its own lines** to those that are ended. -/
theorem lines_ended_append (s t : Text) : lines (ended s ++ t) = lines (ended s) ++ lines t := by
  rcases ended_eq_nil_or s with hnil | ⟨before, hbefore⟩
  · rw [hnil]
    rfl
  · have hended := lines_append_newline before []
    rw [show lines [] = [] from rfl, List.append_nil] at hended
    rw [hbefore, List.append_assoc, List.singleton_append, lines_append_newline, hended]

end Text
end TestBench
