/-
# Text and bytes

Everything that crosses a boundary (a pipe, a file, a path handed to the system) is a sequence of
bytes; everything that is shown is text.

| type | what it is |
| --- | --- |
| `Text` | a sequence of characters |
| `Bytes` | a sequence of octets |

Both are plain lists, so that the library's lemmas on lists apply to them.  This module holds what
several families need of them: order, joining, splitting at a mark, removing a known beginning and
replacing a marked part.
-/

namespace TestBench

/-- A sequence of characters. -/
abbrev Text := List Char

/-- A sequence of octets. -/
abbrev Bytes := List UInt8

/-- The elements of `s` before the first one that satisfies `p`, and those after it; `none` if no
element does. -/
def splitAtFirst? {α : Type} (p : α → Bool) : List α → Option (List α × List α)
  | [] => none
  | a :: s =>
    if p a then some ([], s)
    else (splitAtFirst? p s).map fun (before, after) => (a :: before, after)

/-- The pieces of `s` between the elements that satisfy `p`: one more than there are such
elements. -/
def splitAll {α : Type} (p : α → Bool) : List α → List (List α)
  | [] => [[]]
  | a :: s =>
    if p a then [] :: splitAll p s
    else match splitAll p s with
      | [] => [[a]]
      | piece :: pieces => (a :: piece) :: pieces

/-- There is always a piece. -/
theorem splitAll_ne_nil {α : Type} (p : α → Bool) (s : List α) : splitAll p s ≠ [] := by
  cases s with
  | nil => simp [splitAll]
  | cons a s =>
    unfold splitAll
    split
    · simp
    · split <;> simp

/-- A mark ends the pieces of what stands before it. -/
theorem splitAll_append_cons {α : Type} {p : α → Bool} {mark : α} (hmark : p mark = true)
    (s t : List α) : splitAll p (s ++ mark :: t) = splitAll p s ++ splitAll p t := by
  induction s with
  | nil => simp [splitAll, hmark]
  | cons a s ih =>
    obtain ⟨piece, pieces, hs⟩ := List.exists_cons_of_ne_nil (splitAll_ne_nil p s)
    rw [hs] at ih
    simp only [List.cons_append, splitAll, ih, hs]
    split
    · rfl
    · rfl

/-- Without a mark all is one piece. -/
theorem splitAll_of_forall_not {α : Type} {p : α → Bool} {s : List α} (h : ∀ a ∈ s, p a = false) :
    splitAll p s = [s] := by
  induction s with
  | nil => rfl
  | cons a s ih =>
    have ha : p a = false := h a List.mem_cons_self
    simp [splitAll, ha, ih fun b hb => h b (List.mem_cons_of_mem a hb)]

/-- What remains of `s` after the known beginning `head`, if `s` begins so. -/
def dropHead? {α : Type} [BEq α] : (head s : List α) → Option (List α)
  | [], s => some s
  | _ :: _, [] => none
  | a :: head, b :: s => if a == b then dropHead? head s else none

/-- A text that begins with `head` gives back the rest. -/
theorem dropHead?_append {α : Type} [BEq α] [LawfulBEq α] (head s : List α) :
    dropHead? head (head ++ s) = some s := by
  induction head with
  | nil => rfl
  | cons a head ih => simp [dropHead?, ih]

/-- Only such a text does. -/
theorem eq_append_of_dropHead? {α : Type} [BEq α] [LawfulBEq α] {head s r : List α}
    (h : dropHead? head s = some r) : s = head ++ r := by
  induction head generalizing s with
  | nil => simpa [dropHead?] using h
  | cons a head ih =>
    cases s with
    | nil => simp [dropHead?] at h
    | cons b s =>
      simp only [dropHead?] at h
      split at h
      · next hab => rw [ih h, eq_of_beq hab]; rfl
      · simp at h

/-- `s` with the elements that begin an occurrence of `mark` rewritten: the occurrences are taken
from the left and do not overlap, each is replaced by `by_`, and the replacement is not searched
again.  `skip` elements still belong to the occurrence that was replaced last. -/
def replaceFrom {α : Type} [BEq α] (mark by_ : List α) : (skip : Nat) → List α → List α
  | _, [] => []
  | skip + 1, _ :: s => replaceFrom mark by_ skip s
  | 0, a :: s =>
    if mark.isPrefixOf (a :: s) then by_ ++ replaceFrom mark by_ (mark.length - 1) s
    else a :: replaceFrom mark by_ 0 s

/-- Every occurrence of the non-empty `mark` in `s` replaced by `by_`. -/
def replaceAll {α : Type} [BEq α] (mark by_ s : List α) : List α :=
  replaceFrom mark by_ 0 s

/-- Items written one after the other with `mark` between them. -/
def joinWith {α : Type} (mark : List α) : List (List α) → List α
  | [] => []
  | [a] => a
  | a :: b :: rest => a ++ mark ++ joinWith mark (b :: rest)

namespace Text

/-- Texts in the order of their characters' numbers, a text before its extensions. -/
def le : Text → Text → Bool
  | [], _ => true
  | _ :: _, [] => false
  | a :: s, b :: t => if a = b then le s t else decide (a.toNat < b.toNat)

/-- Insertion into an ascending list without repetition. -/
def insertSorted (a : Text) : List Text → List Text
  | [] => [a]
  | b :: rest =>
    if a = b then b :: rest
    else if le a b then a :: b :: rest
    else b :: insertSorted a rest

/-- The texts that occur in `l`, ascending and each once. -/
def sortedSet (l : List Text) : List Text := l.foldr insertSorted []

/-- What is inserted is there, and nothing else is new. -/
theorem mem_insertSorted {a x : Text} {l : List Text} :
    x ∈ insertSorted a l ↔ x = a ∨ x ∈ l := by
  induction l with
  | nil => simp [insertSorted]
  | cons b rest ih =>
    unfold insertSorted
    split
    · next h => subst h; simp
    · split
      · simp
      · simp [ih]; grind

/-- `sortedSet` has the members of the list it is made of. -/
@[simp] theorem mem_sortedSet {x : Text} {l : List Text} : x ∈ sortedSet l ↔ x ∈ l := by
  induction l with
  | nil => simp [sortedSet]
  | cons a l ih =>
    have : sortedSet (a :: l) = insertSorted a (sortedSet l) := rfl
    rw [this, mem_insertSorted, ih, List.mem_cons]

/-- `text` between two backticks, as names are quoted in messages. -/
def quoted (text : Text) : Text := "`".toList ++ text ++ "`".toList

/-- Small ASCII letters become capitals; every other character stays. -/
def upperAscii (text : Text) : Text := text.map Char.toUpper

end Text

end TestBench
