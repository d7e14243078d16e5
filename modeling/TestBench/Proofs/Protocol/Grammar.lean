/-
# The grammar of protocol lines

`Line.parse?` reads a line from the left and commits itself at the first colon that lets it go on.
What it accepts is said here without reading: a line is cut into its parts, and of all cuts the one
with the shortest location counts.

| definition | what it is |
| --- | --- |
| `Tail` | what may stand behind the second field: nothing, or a colon, blanks and a message |
| `Fields.Fill` | a text is a number and two fields, colons between them, and a tail |
| `Cut` | a text is a location, a colon, and fields |
| `ShortestCut` | no cut of the text has a shorter location |
| `Fields.Passes` | the number is a line number and one of the fields is a keyword |

Fields fill a text in at most one way (`ofText?_eq_some_iff`), since neither a digit nor a character of
a field is a colon.  So the shortest location settles the cut (`locate?_eq_some_iff`), and
`parse?_iff_shortestCut` says what becomes of it.
-/

import TestBench.Protocol.Line
import TestBench.Proofs.Text.Decimal
import Mathlib.Data.List.Induction
import Mathlib.Data.List.TakeDrop
import Mathlib.Data.List.TakeWhile
import Mathlib.Data.Nat.Digits.Defs
import Mathlib.Tactic.SplitIfs

namespace TestBench
namespace Protocol

/-- A run of elements that satisfy `p`, as long as possible. -/
theorem span_eq_iff {α : Type} {p : α → Bool} {s run rest : List α} :
    s.span p = (run, rest)
      ↔ s = run ++ rest ∧ (∀ a ∈ run, p a = true) ∧ ∀ a ∈ rest.head?, p a = false := by
  rw [List.span_eq_takeWhile_dropWhile, Prod.mk.injEq]
  constructor
  · rintro ⟨rfl, rfl⟩
    refine ⟨List.takeWhile_append_dropWhile.symm, fun a ha => List.mem_takeWhile_imp ha, ?_⟩
    intro a ha
    have hnot := List.head?_dropWhile_not p s
    rw [Option.mem_def] at ha
    rw [ha] at hnot
    exact hnot
  · rintro ⟨rfl, hrun, hrest⟩
    rw [List.takeWhile_append_of_pos hrun, List.dropWhile_append_of_pos hrun]
    cases rest with
    | nil => exact ⟨List.append_nil run, rfl⟩
    | cons a rest =>
      have ha : ¬p a = true := by rw [hrest a rfl]; decide
      rw [List.takeWhile_cons_of_neg ha, List.dropWhile_cons_of_neg ha, List.append_nil]
      exact ⟨rfl, rfl⟩

/-- A colon is no digit, so that a number ends in front of it. -/
theorem isDecimalDigit_colon : Text.isDecimalDigit ':' = false := by decide

/-- What stands behind the second field: nothing, or a colon, blanks and a message that goes up to
the end and does not begin with a blank. -/
inductive Tail : Option Text → Text → Prop
  | none : Tail none []
  | message {blanks message : Text} (blank : ∀ c ∈ blanks, Text.isBlank c = true)
      (begins : ∀ c ∈ message.head?, Text.isBlank c = false) (oneLine : '\n' ∉ message) :
      Tail (some message) (':' :: (blanks ++ message))

/-- The message of a tail is what its colon and the blanks behind the colon leave. -/
theorem tail_some_cons_iff {message s : Text} :
    Tail (some message) (':' :: s) ↔ message = Text.trimLeft s ∧ '\n' ∉ message := by
  constructor
  · rintro ⟨⟩
    next blanks blank begins oneLine =>
    have hspan : (blanks ++ message).span Text.isBlank = (blanks, message) :=
      span_eq_iff.2 ⟨rfl, blank, begins⟩
    rw [List.span_eq_takeWhile_dropWhile, Prod.mk.injEq] at hspan
    exact ⟨hspan.2.symm, oneLine⟩
  · rintro ⟨rfl, oneLine⟩
    have hspan := (span_eq_iff (s := s) (p := Text.isBlank)).1 (List.span_eq_takeWhile_dropWhile ..)
    have htail := Tail.message hspan.2.1 hspan.2.2 oneLine
    rw [← hspan.1] at htail
    exact htail

/-- A text is a number, two fields and a tail, with colons between them. -/
structure Fields.Fill (fields : Fields) (rest : Text) : Prop where
  number_ne_nil : fields.number ≠ []
  digits : ∀ c ∈ fields.number, Text.isDecimalDigit c = true
  colon_notMem_first : ':' ∉ fields.first
  colon_notMem_second : ':' ∉ fields.second
  split : ∃ tail, Tail fields.message tail ∧
    rest = fields.number ++ ':' :: (fields.first ++ ':' :: (fields.second ++ tail))

/-- A field ends in front of a colon, or with the text. -/
theorem span_field_iff {s field rest : Text} :
    s.span (· != ':') = (field, rest)
      ↔ s = field ++ rest ∧ ':' ∉ field ∧ ∀ c ∈ rest.head?, c = ':' := by
  rw [span_eq_iff]
  simp only [bne_iff_ne, bne_eq_false_iff_eq]
  refine and_congr_right fun _ => and_congr_left fun _ => ?_
  exact ⟨fun h hmem => h ':' hmem rfl, fun h c hc heq => h (heq ▸ hc)⟩

/-- **Fields fill a text in one way at most,** and `ofText?` finds it. -/
theorem ofText?_eq_some_iff {rest : Text} {fields : Fields} :
    Fields.ofText? rest = some fields ↔ fields.Fill rest := by
  constructor
  · intro h
    rcases hnumber : rest.span Text.isDecimalDigit with ⟨number, s₁⟩
    simp only [Fields.ofText?, hnumber] at h
    split at h
    · simp at h
    next hne =>
    split at h
    next s₂ =>
      rcases hfirst : s₂.span (· != ':') with ⟨first, s₃⟩
      simp only [hfirst] at h
      split at h
      next c s₄ =>
        rcases hsecond : s₄.span (· != ':') with ⟨second, s₅⟩
        simp only [hsecond] at h
        obtain ⟨rfl, hdigits, -⟩ := span_eq_iff.1 hnumber
        obtain ⟨rfl, hcolon₁, hhead₁⟩ := span_field_iff.1 hfirst
        obtain ⟨rfl, hcolon₂, hhead₂⟩ := span_field_iff.1 hsecond
        obtain rfl : c = ':' := hhead₁ c rfl
        split at h
        next =>
          obtain rfl := Option.some.inj h
          exact ⟨hne, hdigits, hcolon₁, hcolon₂, [], .none, rfl⟩
        next c s₆ =>
          obtain rfl : c = ':' := hhead₂ c rfl
          split at h
          · simp at h
          next oneLine =>
            obtain rfl := Option.some.inj h
            exact ⟨hne, hdigits, hcolon₁, hcolon₂, ':' :: s₆,
              tail_some_cons_iff.2 ⟨rfl, oneLine⟩, rfl⟩
      next => simp at h
    next => simp at h
  · rintro ⟨hne, hdigits, hcolon₁, hcolon₂, tail, htail, rfl⟩
    obtain ⟨number, first, second, message⟩ := fields
    have hnumber : (number ++ ':' :: (first ++ ':' :: (second ++ tail))).span Text.isDecimalDigit
        = (number, ':' :: (first ++ ':' :: (second ++ tail))) :=
      span_eq_iff.2 ⟨rfl, hdigits, fun c hc => Option.some.inj hc ▸ isDecimalDigit_colon⟩
    have hfirst : (first ++ ':' :: (second ++ tail)).span (· != ':')
        = (first, ':' :: (second ++ tail)) :=
      span_field_iff.2 ⟨rfl, hcolon₁, fun c hc => (Option.some.inj hc).symm⟩
    have hsecond : (second ++ tail).span (· != ':') = (second, tail) := by
      refine span_field_iff.2 ⟨rfl, hcolon₂, ?_⟩
      cases htail with
      | none => intro c hc; simp at hc
      | message => exact fun c hc => (Option.some.inj hc).symm
    simp only [Fields.ofText?, hnumber, hfirst, hsecond]
    rw [if_neg hne]
    cases htail with
    | none => rfl
    | message blank begins oneLine =>
      have hmessage := (tail_some_cons_iff.1 (Tail.message blank begins oneLine)).1
      dsimp only
      rw [← hmessage, if_neg oneLine]

/-- A text is a location, a colon, and fields.  The location is not empty and has no line feed. -/
structure Cut (s location : Text) (fields : Fields) : Prop where
  location_ne_nil : location ≠ []
  newline_notMem_location : '\n' ∉ location
  split : ∃ rest, fields.Fill rest ∧ s = location ++ ':' :: rest

/-- No cut of the text has a shorter location. -/
structure ShortestCut (s location : Text) (fields : Fields) : Prop extends Cut s location fields where
  shortest : ∀ location' fields', Cut s location' fields' → location.length ≤ location'.length

theorem not_cut_nil {location : Text} {fields : Fields} : ¬Cut [] location fields := by
  rintro ⟨-, -, rest, -, hs⟩
  simp at hs

/-- A cut ends the location behind the first character, or goes on with what follows it. -/
theorem cut_cons_iff {c : Char} {s location : Text} {fields : Fields} :
    Cut (c :: s) location fields ↔ c ≠ '\n' ∧
      ((location = [c] ∧ ∃ rest, s = ':' :: rest ∧ fields.Fill rest) ∨
        ∃ location', location = c :: location' ∧ Cut s location' fields) := by
  constructor
  · rintro ⟨hne, hline, rest, hfill, hs⟩
    obtain ⟨d, location', rfl⟩ := List.exists_cons_of_ne_nil hne
    rw [List.cons_append, List.cons.injEq] at hs
    obtain ⟨rfl, rfl⟩ := hs
    rw [List.mem_cons, not_or] at hline
    refine ⟨Ne.symm hline.1, ?_⟩
    by_cases hempty : location' = []
    · subst hempty
      exact .inl ⟨rfl, rest, rfl, hfill⟩
    · exact .inr ⟨location', rfl, hempty, hline.2, rest, hfill, rfl⟩
  · rintro ⟨hc, ⟨rfl, rest, rfl, hfill⟩ | ⟨location', rfl, -, hline, rest, hfill, rfl⟩⟩
    · exact ⟨List.cons_ne_nil _ _, by simpa using Ne.symm hc, rest, hfill, rfl⟩
    · refine ⟨List.cons_ne_nil _ _, ?_, rest, hfill, rfl⟩
      rw [List.mem_cons, not_or]
      exact ⟨Ne.symm hc, hline⟩

/-- The fields behind a colon, where there is one. -/
theorem fieldsBehindColon_eq_some_iff {s : Text} {fields : Fields} :
    (match s with
      | ':' :: rest => Fields.ofText? rest
      | _ => none) = some fields ↔ ∃ rest, s = ':' :: rest ∧ fields.Fill rest := by
  constructor
  · intro h
    split at h
    next rest => exact ⟨rest, rfl, ofText?_eq_some_iff.1 h⟩
    next => simp at h
  · rintro ⟨rest, rfl, hfill⟩
    exact ofText?_eq_some_iff.2 hfill

/-- What is located is a cut with the shortest location. -/
theorem shortestCut_of_locate? {s location : Text} {fields : Fields}
    (h : locate? s = some (location, fields)) : ShortestCut s location fields := by
  fun_induction locate? s generalizing location with
  | case1 => simp at h
  | case2 => simp at h
  | case3 =>
    rename_i c s hc fields? found hfound
    rw [Option.some.injEq, Prod.mk.injEq] at h
    obtain ⟨rfl, rfl⟩ := h
    have hfill := fieldsBehindColon_eq_some_iff.1 hfound
    refine ⟨cut_cons_iff.2 ⟨hc, .inl ⟨rfl, hfill⟩⟩, fun location' fields' hcut => ?_⟩
    exact List.length_pos_iff.2 hcut.location_ne_nil
  | case4 =>
    rename_i c s hc fields? hnone ih
    obtain ⟨⟨location₀, fields₀⟩, hlocate, heq⟩ := Option.map_eq_some_iff.1 h
    rw [Prod.mk.injEq] at heq
    obtain ⟨rfl, rfl⟩ := heq
    have hcut := ih hlocate
    refine ⟨cut_cons_iff.2 ⟨hc, .inr ⟨location₀, rfl, hcut.toCut⟩⟩, fun location' fields' hcut' => ?_⟩
    obtain ⟨-, ⟨rfl, hfill⟩ | ⟨location₁, rfl, hcut₁⟩⟩ := cut_cons_iff.1 hcut'
    · have hsome := fieldsBehindColon_eq_some_iff.2 hfill
      exact absurd (hnone.symm.trans hsome) (by simp)
    · have hle := hcut.shortest _ _ hcut₁
      rw [List.length_cons, List.length_cons]
      omega

/-- Where nothing is located there is no cut. -/
theorem not_cut_of_locate?_eq_none {s location : Text} {fields : Fields} (h : locate? s = none) :
    ¬Cut s location fields := by
  fun_induction locate? s generalizing location with
  | case1 => exact not_cut_nil
  | case2 => exact fun hcut => (cut_cons_iff.1 hcut).1 rfl
  | case3 => simp at h
  | case4 =>
    rename_i c s hc fields? hnone ih
    intro hcut
    obtain ⟨-, ⟨rfl, hfill⟩ | ⟨location', rfl, hcut'⟩⟩ := cut_cons_iff.1 hcut
    · have hsome := fieldsBehindColon_eq_some_iff.2 hfill
      exact absurd (hnone.symm.trans hsome) (by simp)
    · exact ih (Option.map_eq_none_iff.1 h) hcut'

/-- The shortest location settles the cut. -/
theorem ShortestCut.unique {s location location' : Text} {fields fields' : Fields}
    (h : ShortestCut s location fields) (h' : ShortestCut s location' fields') :
    location = location' ∧ fields = fields' := by
  have hlen : location.length = location'.length :=
    Nat.le_antisymm (h.shortest _ _ h'.toCut) (h'.shortest _ _ h.toCut)
  obtain ⟨rest, hfill, hs⟩ := h.split
  obtain ⟨rest', hfill', hs'⟩ := h'.split
  obtain ⟨rfl, hrest⟩ := List.append_inj (hs.symm.trans hs') hlen
  obtain rfl : rest = rest' := (List.cons.inj hrest).2
  have hfields := (ofText?_eq_some_iff.2 hfill).symm.trans (ofText?_eq_some_iff.2 hfill')
  exact ⟨rfl, Option.some.inj hfields⟩

/-- **What is located is the cut with the shortest location.** -/
theorem locate?_eq_some_iff {s location : Text} {fields : Fields} :
    locate? s = some (location, fields) ↔ ShortestCut s location fields := by
  refine ⟨shortestCut_of_locate?, fun h => ?_⟩
  cases hlocate : locate? s with
  | none => exact absurd h.toCut (not_cut_of_locate?_eq_none hlocate)
  | some found =>
    obtain ⟨rfl, rfl⟩ := h.unique (shortestCut_of_locate? hlocate)
    rfl

/-! ### What becomes of a cut -/

/-- The value of a number: its digits, the most significant one first, to the base ten. -/
def Fields.value (fields : Fields) : Nat :=
  Nat.ofDigits 10 (fields.number.reverse.map Decimal.digitValue)

/-- The fields make a line: the number has ASCII digits and fits into 32 bits, and a field is a
keyword when the blanks around it are dropped. -/
structure Fields.Passes (fields : Fields) : Prop where
  ascii : ∀ c ∈ fields.number, Decimal.isDigit c = true
  value_le : fields.value ≤ 2 ^ 32 - 1
  keyword : ∃ kind : Kind,
    Text.trim fields.first = kind.keyword ∨ Text.trim fields.second = kind.keyword

/-- A line number is read off ASCII digits below the bound. -/
theorem readNumber?_eq_some_iff {fields : Fields} (hne : fields.number ≠ []) {n : Nat} :
    Line.readNumber? fields.number = some n
      ↔ (∀ c ∈ fields.number, Decimal.isDigit c = true) ∧ fields.value ≤ 2 ^ 32 - 1
        ∧ n = fields.value := by
  have hvalue : fields.value = Decimal.value fields.number := rfl
  rw [Line.readNumber?, Option.filter_eq_some_iff, Decimal.read?_eq_some_iff, hvalue]
  simp only [Line.numberBound]
  constructor
  · rintro ⟨⟨-, hdigits, rfl⟩, hlt⟩
    have hbound : Decimal.value fields.number < 2 ^ 32 := of_decide_eq_true hlt
    exact ⟨hdigits, by omega, rfl⟩
  · rintro ⟨hdigits, hle, rfl⟩
    exact ⟨⟨hne, hdigits, rfl⟩, decide_eq_true (by omega)⟩

theorem ofKeyword?_eq_some_iff {field : Text} {kind : Kind} :
    Kind.ofKeyword? field = some kind ↔ field = kind.keyword :=
  ⟨Kind.keyword_of_ofKeyword?, fun h => h ▸ Kind.ofKeyword?_keyword kind⟩

theorem ofKeyword?_eq_none_iff {field : Text} :
    Kind.ofKeyword? field = none ↔ ∀ kind : Kind, field ≠ kind.keyword := by
  rw [Option.eq_none_iff_forall_ne_some]
  exact forall_congr' fun kind => not_congr ofKeyword?_eq_some_iff

/-- The first field is the keyword if it can be, and the second otherwise. -/
theorem readFields?_eq_some_iff {first second name : Text} {kind : Kind} :
    Line.readFields? first second = some (kind, name)
      ↔ first = kind.keyword ∧ name = second ∨
        (∀ other : Kind, first ≠ other.keyword) ∧ second = kind.keyword ∧ name = first := by
  rw [Line.readFields?]
  cases hfirst : Kind.ofKeyword? first with
  | some kind' =>
    have hkeyword := ofKeyword?_eq_some_iff.1 hfirst
    simp only [Option.some.injEq, Prod.mk.injEq]
    constructor
    · rintro ⟨rfl, rfl⟩
      exact .inl ⟨hkeyword, rfl⟩
    · rintro (⟨hkind, rfl⟩ | ⟨hnone, -⟩)
      · have hsame := (ofKeyword?_eq_some_iff.2 hkind).symm.trans hfirst
        exact ⟨(Option.some.inj hsame).symm, rfl⟩
      · exact absurd hkeyword (hnone kind')
  | none =>
    have hnone := ofKeyword?_eq_none_iff.1 hfirst
    simp only [Option.map_eq_some_iff, Prod.mk.injEq]
    constructor
    · rintro ⟨kind', hsecond, rfl, rfl⟩
      exact .inr ⟨hnone, ofKeyword?_eq_some_iff.1 hsecond, rfl⟩
    · rintro (⟨hkind, -⟩ | ⟨-, hsecond, rfl⟩)
      · exact absurd hkind (hnone kind)
      · exact ⟨kind, ofKeyword?_eq_some_iff.2 hsecond, rfl, rfl⟩

/-- Two fields are read iff one of them is a keyword. -/
theorem isSome_readFields?_iff {first second : Text} :
    (Line.readFields? first second).isSome = true
      ↔ ∃ kind : Kind, first = kind.keyword ∨ second = kind.keyword := by
  constructor
  · intro h
    obtain ⟨⟨kind, name⟩, hread⟩ := Option.isSome_iff_exists.1 h
    rcases readFields?_eq_some_iff.1 hread with ⟨hfirst, -⟩ | ⟨-, hsecond, -⟩
    · exact ⟨kind, .inl hfirst⟩
    · exact ⟨kind, .inr hsecond⟩
  · rintro ⟨kind, hkind⟩
    by_cases hfirst : ∃ other : Kind, first = other.keyword
    · obtain ⟨other, hother⟩ := hfirst
      exact Option.isSome_iff_exists.2 ⟨_, readFields?_eq_some_iff.2 (.inl ⟨hother, rfl⟩)⟩
    · have hnone : ∀ other : Kind, first ≠ other.keyword := fun other h => hfirst ⟨other, h⟩
      have hsecond := hkind.resolve_left (hnone kind)
      exact Option.isSome_iff_exists.2 ⟨_, readFields?_eq_some_iff.2 (.inr ⟨hnone, hsecond, rfl⟩)⟩

/-- What a line takes from the cut of its text. -/
theorem parse?_of_shortestCut {s location : Text} {fields : Fields} (h : ShortestCut s location fields)
    {line : Line} :
    Line.parse? s = some line ↔ ∃ number kind name, Line.readNumber? fields.number = some number ∧
      Line.readFields? (Text.trim fields.first) (Text.trim fields.second) = some (kind, name) ∧
      line = { location, number, name, kind, message := fields.message.filter (· ≠ []) } := by
  rw [Line.parse?, locate?_eq_some_iff.2 h]
  dsimp only
  constructor
  · intro hparse
    split at hparse
    next number kind name hnumber hfields =>
      exact ⟨number, kind, name, hnumber, hfields, (Option.some.inj hparse).symm⟩
    next => simp at hparse
  · rintro ⟨number, kind, name, hnumber, hfields, rfl⟩
    rw [hnumber, hfields]

/-- A line as a cut states it.  The first field is the keyword if it can be, and the other field is the
name; an empty message is no message. -/
structure Stated (location : Text) (fields : Fields) (line : Line) : Prop where
  location_eq : line.location = location
  number_eq : line.number = fields.value
  kind_name : Text.trim fields.first = line.kind.keyword ∧ line.name = Text.trim fields.second ∨
    (∀ kind : Kind, Text.trim fields.first ≠ kind.keyword) ∧
      Text.trim fields.second = line.kind.keyword ∧ line.name = Text.trim fields.first
  message_eq : line.message = if fields.message = some [] then none else fields.message

theorem filter_ne_nil_eq (message : Option Text) :
    message.filter (· ≠ []) = if message = some [] then none else message := by
  rcases message with _ | _ | ⟨c, message⟩ <;> simp

/-- The line of a cut is the one it states, and there is one when its fields pass. -/
theorem parse?_eq_some_iff_stated {s location : Text} {fields : Fields}
    (h : ShortestCut s location fields) {line : Line} :
    Line.parse? s = some line ↔ fields.Passes ∧ Stated location fields line := by
  obtain ⟨rest, hfill, -⟩ := h.split
  rw [parse?_of_shortestCut h]
  constructor
  · rintro ⟨number, kind, name, hnumber, hfields, rfl⟩
    obtain ⟨hascii, hle, rfl⟩ := (readNumber?_eq_some_iff hfill.number_ne_nil).1 hnumber
    have hkeyword := isSome_readFields?_iff.1 (Option.isSome_iff_exists.2 ⟨_, hfields⟩)
    exact ⟨⟨hascii, hle, hkeyword⟩, rfl, rfl, readFields?_eq_some_iff.1 hfields,
      filter_ne_nil_eq fields.message⟩
  · rintro ⟨hpasses, hstated⟩
    have hnumber := (readNumber?_eq_some_iff hfill.number_ne_nil).2
      ⟨hpasses.ascii, hpasses.value_le, hstated.number_eq⟩
    have hmessage := hstated.message_eq.trans (filter_ne_nil_eq fields.message).symm
    refine ⟨_, _, _, hnumber, readFields?_eq_some_iff.2 hstated.kind_name, ?_⟩
    rw [← hmessage, ← hstated.location_eq]

/-- A cut states a line when its fields pass. -/
theorem Fields.Passes.exists_stated {fields : Fields} (h : fields.Passes) (location : Text) :
    ∃ line, Stated location fields line := by
  obtain ⟨⟨kind, name⟩, hfields⟩ := Option.isSome_iff_exists.1 (isSome_readFields?_iff.2 h.keyword)
  let message := if fields.message = some [] then none else fields.message
  exact ⟨⟨location, fields.value, name, kind, message⟩, rfl, rfl, readFields?_eq_some_iff.1 hfields,
    rfl⟩

/-- A text that can be cut has a cut with the shortest location. -/
theorem Cut.exists_shortestCut {s location : Text} {fields : Fields} (h : Cut s location fields) :
    ∃ location₀ fields₀, ShortestCut s location₀ fields₀ := by
  cases hlocate : locate? s with
  | none => exact absurd h (not_cut_of_locate?_eq_none hlocate)
  | some found => exact ⟨found.1, found.2, shortestCut_of_locate? hlocate⟩

theorem parse?_eq_none_of_not_cut {s : Text} (h : ∀ location fields, ¬Cut s location fields) :
    Line.parse? s = none := by
  have hlocate : locate? s = none :=
    Option.eq_none_iff_forall_ne_some.2 fun found hfound =>
      h found.1 found.2 (shortestCut_of_locate? hfound).toCut
  rw [Line.parse?, hlocate]

/-- **What is accepted.** A text that can be cut has just one cut with the shortest location.  The text
is a line iff it has one and its fields pass, whatever a longer location would give, and the line is the
one that cut states. -/
theorem parse?_iff_shortestCut (s : Text) :
    ((∃ location fields, Cut s location fields) →
      ∃! cut : Text × Fields, ShortestCut s cut.1 cut.2) ∧
    ((Line.parse? s).isSome = true
      ↔ ∃ location fields, ShortestCut s location fields ∧ fields.Passes) ∧
    ∀ location fields, ShortestCut s location fields →
      (¬fields.Passes → Line.parse? s = none) ∧
      (fields.Passes → ∃ line, Line.parse? s = some line ∧ Stated location fields line) := by
  refine ⟨?_, ⟨fun h => ?_, ?_⟩, fun location fields hcut => ⟨fun hfails => ?_, fun hpasses => ?_⟩⟩
  · rintro ⟨location, fields, hcut⟩
    obtain ⟨location₀, fields₀, hshortest⟩ := hcut.exists_shortestCut
    refine ⟨(location₀, fields₀), hshortest, fun cut hother => ?_⟩
    obtain ⟨hlocation, hfields⟩ := hother.unique hshortest
    exact Prod.ext hlocation hfields
  · obtain ⟨line, hline⟩ := Option.isSome_iff_exists.1 h
    by_cases hcut : ∃ location fields, Cut s location fields
    · obtain ⟨location, fields, hcut⟩ := hcut
      obtain ⟨location₀, fields₀, hshortest⟩ := hcut.exists_shortestCut
      exact ⟨location₀, fields₀, hshortest, ((parse?_eq_some_iff_stated hshortest).1 hline).1⟩
    · have hnone := parse?_eq_none_of_not_cut fun location fields h => hcut ⟨location, fields, h⟩
      exact absurd (hnone.symm.trans hline) (by simp)
  · rintro ⟨location, fields, hshortest, hpasses⟩
    obtain ⟨line, hstated⟩ := hpasses.exists_stated location
    rw [(parse?_eq_some_iff_stated hshortest).2 ⟨hpasses, hstated⟩]
    rfl
  · rw [Option.eq_none_iff_forall_ne_some]
    exact fun line hline => hfails ((parse?_eq_some_iff_stated hcut).1 hline).1
  · obtain ⟨line, hstated⟩ := hpasses.exists_stated location
    exact ⟨line, (parse?_eq_some_iff_stated hcut).2 ⟨hpasses, hstated⟩, hstated⟩

/-- A location and a message with colons are kept whole; and a text is no line when the shortest location
leaves no keyword, although a longer one would leave one. -/
theorem parse?_iff_shortestCut_colons :
    (∃ line, Line.parse? "a:b:12:check: FAIL :  x: y ".toList = some line ∧
      Stated "a:b".toList ⟨"12".toList, "check".toList, " FAIL ".toList, some "x: y ".toList⟩ line) ∧
    Line.parse? "a:1:b:2:PASS:x".toList = none ∧
    ∃ fields : Fields, fields.Passes ∧ Cut "a:1:b:2:PASS:x".toList "a:1:b".toList fields := by
  refine ⟨?_, ?_, ⟨"2".toList, "PASS".toList, "x".toList, none⟩, ?_, ?_⟩
  · refine ((parse?_iff_shortestCut "a:b:12:check: FAIL :  x: y ".toList).2.2 _ _ ?_).2 ?_
    · exact locate?_eq_some_iff.1 (by decide +kernel)
    · exact ⟨List.all_eq_true.1 (by decide), by decide, .closing .fail, .inr (by decide)⟩
  · have hcut : ShortestCut "a:1:b:2:PASS:x".toList "a".toList
        ⟨"1".toList, "b".toList, "2".toList, some "PASS:x".toList⟩ :=
      locate?_eq_some_iff.1 (by decide +kernel)
    refine ((parse?_iff_shortestCut "a:1:b:2:PASS:x".toList).2.2 _ _ hcut).1 fun hpasses => ?_
    obtain ⟨⟨_ | _ | _⟩ | _, h | h⟩ := hpasses.keyword <;> revert h <;> decide
  · exact ⟨List.all_eq_true.1 (by decide), by decide, .closing .pass, .inl (by decide)⟩
  · exact ⟨by decide, by decide, "2:PASS:x".toList, ofText?_eq_some_iff.1 (by decide +kernel), by decide⟩

end Protocol
end TestBench
