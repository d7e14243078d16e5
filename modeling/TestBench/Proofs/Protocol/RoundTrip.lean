/-
# Lines read back

A line is written with a colon between its parts, the keyword before the name (`Line.write`) or behind it
(`Line.writeNameFirst`).  Reading takes the shortest location, so a location that was written is found
again iff no shorter one can be cut off.

A shorter one can be cut off iff a number between two colons stands inside of the location, the colon
behind it included (`HidesNumber`).  One direction: what a shorter location leaves begins with a number
and its colon, and both end in front of the fields (`exists_eq_append_of_append_eq`).  The other: such a
number and what follows it can always be cut off, because any text with a colon can serve as two fields
and a message (`exists_fill`).  `Line.parse?_write_iff` puts both together.
-/

import TestBench.Proofs.Protocol.Grammar

namespace TestBench

/-- Elements in front of a mark, not the mark among them, end no later than those in front of any other
occurrence of it. -/
theorem exists_eq_append_of_append_eq {α : Type} {mark : α} {front back front' back' : List α}
    (h : front ++ mark :: back = front' ++ mark :: back') (hmark : mark ∉ front') :
    ∃ between, front ++ [mark] = front' ++ mark :: between := by
  rcases List.append_eq_append_iff.1 h with ⟨rest, hfront', hrest⟩ | ⟨rest, hfront, hrest⟩
  · cases rest with
    | nil => exact ⟨[], by rw [hfront', List.append_nil]⟩
    | cons a rest =>
      -- The mark would be among them.
      rw [List.cons_append, List.cons.injEq] at hrest
      rw [hfront', ← hrest.1] at hmark
      exact absurd List.mem_append_cons_self hmark
  · cases rest with
    | nil => exact ⟨[], by rw [hfront, List.append_nil]⟩
    | cons a rest =>
      rw [List.cons_append, List.cons.injEq] at hrest
      refine ⟨rest ++ [mark], ?_⟩
      rw [hfront, ← hrest.1, List.append_assoc, List.cons_append]

namespace Text

/-- Nothing is dropped from a text with no blank at either end. -/
theorem trim_eq_self {s : Text} (hfirst : ∀ c ∈ s.head?, isBlank c = false)
    (hlast : ∀ c ∈ s.getLast?, isBlank c = false) : trim s = s := by
  have hkept : ∀ t : Text, (∀ c ∈ t.head?, isBlank c = false) → trimLeft t = t := by
    intro t ht
    cases t with
    | nil => rfl
    | cons c t => exact List.dropWhile_cons_of_neg (by rw [ht c rfl]; decide)
  rw [trim, hkept s hfirst, hkept, List.reverse_reverse]
  rwa [List.head?_reverse]

end Text

namespace Protocol

theorem Kind.trim_keyword (kind : Kind) : Text.trim kind.keyword = kind.keyword := by
  rcases kind with ⟨_ | _ | _⟩ | _ <;> decide

theorem Kind.colon_notMem_keyword (kind : Kind) : ':' ∉ kind.keyword := by
  rcases kind with ⟨_ | _ | _⟩ | _ <;> decide

/-- Inside the location, behind its first character, a number stands between two colons; the second may
be the one behind the location. -/
def HidesNumber (location : Text) : Prop :=
  ∃ before number after, before ≠ [] ∧ number ≠ [] ∧ (∀ c ∈ number, Text.isDecimalDigit c = true) ∧
    location ++ [':'] = before ++ ':' :: (number ++ ':' :: after)

/-! ### Locations that are found again -/

theorem colon_notMem_of_digits {number : Text} (h : ∀ c ∈ number, Text.isDecimalDigit c = true) :
    ':' ∉ number := by
  intro hcolon
  have := h ':' hcolon
  rw [isDecimalDigit_colon] at this
  exact Bool.false_ne_true this

/-- **A shorter cut** reveals a number in the location. -/
theorem hidesNumber_of_cut {location location' rest : Text} {fields' : Fields}
    (h : Cut (location ++ ':' :: rest) location' fields') (hlt : location'.length < location.length) :
    HidesNumber location := by
  obtain ⟨hne, -, rest', hfill, heq⟩ := h
  obtain ⟨tail, -, hrest'⟩ := hfill.split
  obtain ⟨between, hlocation⟩ : ∃ between, location = location' ++ ':' :: between := by
    rcases List.append_eq_append_iff.1 heq with ⟨extra, hlonger, -⟩ | ⟨extra, hlocation, hextra⟩
    · rw [hlonger, List.length_append] at hlt
      omega
    · cases extra with
      | nil => simp [hlocation] at hlt
      | cons c between =>
        rw [List.cons_append, List.cons.injEq] at hextra
        exact ⟨between, by rw [hlocation, hextra.1]⟩
  rw [hlocation, List.append_assoc, List.append_cancel_left_eq, List.cons_append, List.cons.injEq,
    hrest'] at heq
  obtain ⟨after, hafter⟩ :=
    exists_eq_append_of_append_eq heq.2 (colon_notMem_of_digits hfill.digits)
  refine ⟨location', fields'.number, after, hne, hfill.number_ne_nil, hfill.digits, ?_⟩
  rw [hlocation, List.append_assoc, List.cons_append, hafter]

/-- Fields behind a location that hides no number are cut off there. -/
theorem shortestCut_of_not_hidesNumber {location rest : Text} {fields : Fields} (hne : location ≠ [])
    (hline : '\n' ∉ location) (hhides : ¬HidesNumber location) (hfill : fields.Fill rest) :
    ShortestCut (location ++ ':' :: rest) location fields where
  location_ne_nil := hne
  newline_notMem_location := hline
  split := ⟨rest, hfill, rfl⟩
  shortest _ _ hcut := Nat.le_of_not_lt fun hlt => hhides (hidesNumber_of_cut hcut hlt)

/-! ### Locations that are not found -/

/-- **Any text with a colon fills two fields,** and a message if it has another colon. -/
theorem exists_fill {number s : Text} (hne : number ≠ [])
    (hdigits : ∀ c ∈ number, Text.isDecimalDigit c = true) (hcolon : ':' ∈ s) (hline : '\n' ∉ s) :
    ∃ fields : Fields, fields.Fill (number ++ ':' :: s) := by
  obtain ⟨first, s₁, rfl, hfirst⟩ := List.eq_append_cons_of_mem hcolon
  by_cases hmore : ':' ∈ s₁
  · obtain ⟨second, s₂, rfl, hsecond⟩ := List.eq_append_cons_of_mem hmore
    have hmessage : '\n' ∉ Text.trimLeft s₂ := by
      intro hmem
      have : '\n' ∈ s₂ := (List.dropWhile_suffix _).subset hmem
      simp [this] at hline
    exact ⟨⟨number, first, second, some (Text.trimLeft s₂)⟩, hne, hdigits, hfirst, hsecond, _,
      tail_some_cons_iff.2 ⟨rfl, hmessage⟩, rfl⟩
  · exact ⟨⟨number, first, s₁, none⟩, hne, hdigits, hfirst, hmore, [], .none, by rw [List.append_nil]⟩

/-- **No cut at a location that hides a number is the shortest.** -/
theorem not_shortestCut_of_hidesNumber {s location : Text} {fields : Fields}
    (hhides : HidesNumber location) (hline : '\n' ∉ s) : ¬ShortestCut s location fields := by
  rintro ⟨⟨-, -, rest, hfill, hs⟩, hshortest⟩
  obtain ⟨before, number, after, hbefore, hnumber, hdigits, hlocation⟩ := hhides
  obtain ⟨tail, -, hrest⟩ := hfill.split
  have hcolon : ':' ∈ rest := by
    rw [hrest]
    exact List.mem_append_cons_self
  have hsplit : s = before ++ ':' :: (number ++ ':' :: (after ++ rest)) :=
    calc
      s = location ++ [':'] ++ rest := by rw [hs, List.append_assoc, List.singleton_append]
      _ = _ := by simp only [hlocation, List.append_assoc, List.cons_append]
  obtain ⟨fields', hfill'⟩ := exists_fill hnumber hdigits (s := after ++ rest)
    (List.mem_append_right after hcolon) fun h => hline (by rw [hsplit]; simp [List.mem_append.1 h])
  have hcut : Cut s before fields' :=
    ⟨hbefore, fun h => hline (by rw [hsplit]; exact List.mem_append_left _ h), _, hfill', hsplit⟩
  have hle := hshortest _ _ hcut
  have hlength := congrArg List.length hlocation
  simp only [List.length_append, List.length_cons, List.length_nil] at hlength
  omega

/-! ### Lines that are read back -/

/-- The parts of a line behind its location are such that they can be told apart when they are written. -/
structure Line.Writable (line : Line) : Prop where
  number_lt : line.number < 2 ^ 32
  colon_notMem_name : ':' ∉ line.name
  name_begins : ∀ c ∈ line.name.head?, Text.isBlank c = false
  name_ends : ∀ c ∈ line.name.getLast?, Text.isBlank c = false
  message_ne_nil : line.message ≠ some []
  newline_notMem_message : ∀ message ∈ line.message, '\n' ∉ message
  message_begins : ∀ message ∈ line.message, ∀ c ∈ message.head?, Text.isBlank c = false

namespace Line

variable {line : Line}

theorem isDecimalDigit_of_mem_write {n : Nat} {c : Char} (h : c ∈ Decimal.write n) :
    Text.isDecimalDigit c = true := by
  have hdigit := List.all_eq_true.1 (Decimal.all_isDigit_writeDigits (n + 1) n) c h
  simp only [Decimal.isDigit, Bool.and_eq_true, decide_eq_true_eq] at hdigit
  refine List.any_eq_true.2 ⟨0x30, by decide, ?_⟩
  simp only [Bool.and_eq_true, decide_eq_true_eq]
  omega

/-- What is written behind the second field. -/
theorem Writable.tail_messageText (h : line.Writable) : Tail line.message (messageText line.message) := by
  cases hmessage : line.message with
  | none => exact .none
  | some message =>
    have hblanks : ∀ c ∈ ([] : Text), Text.isBlank c = true := nofun
    exact .message hblanks (h.message_begins message hmessage) (h.newline_notMem_message message hmessage)

/-- The fields of a written line. -/
theorem Writable.fill (h : line.Writable) {first second : Text} (hfirst : ':' ∉ first)
    (hsecond : ':' ∉ second) :
    Fields.Fill ⟨Decimal.write line.number, first, second, line.message⟩
      (Decimal.write line.number ++ ':' :: (first ++ ':' :: (second ++ messageText line.message))) where
  number_ne_nil := Decimal.write_ne_nil line.number
  digits _ := isDecimalDigit_of_mem_write
  colon_notMem_first := hfirst
  colon_notMem_second := hsecond
  split := ⟨_, h.tail_messageText, rfl⟩

/-- **A line is read back** when its fields are written such that the keyword and the name are read. -/
theorem Writable.parse?_eq_some (h : line.Writable) (hne : line.location ≠ [])
    (hline : '\n' ∉ line.location) (hhides : ¬HidesNumber line.location) {first second : Text}
    (hfirst : ':' ∉ first) (hsecond : ':' ∉ second)
    (hfields : readFields? (Text.trim first) (Text.trim second) = some (line.kind, line.name)) :
    parse? (line.location ++ ':' :: (Decimal.write line.number
      ++ ':' :: (first ++ ':' :: (second ++ messageText line.message)))) = some line := by
  have hcut := shortestCut_of_not_hidesNumber hne hline hhides (h.fill hfirst hsecond)
  have hnumber : readNumber? (Decimal.write line.number) = some line.number := by
    rw [readNumber?, Decimal.read?_write]
    exact Option.filter_eq_some_iff.2 ⟨rfl, decide_eq_true h.number_lt⟩
  refine (parse?_of_shortestCut hcut).2 ⟨_, _, _, hnumber, hfields, ?_⟩
  rw [filter_ne_nil_eq, if_neg h.message_ne_nil]

/-- A line with the keyword before the name is read back. -/
theorem Writable.parse?_write (h : line.Writable) (hne : line.location ≠ []) (hline : '\n' ∉ line.location)
    (hhides : ¬HidesNumber line.location) : parse? line.write = some line := by
  have htrim := Text.trim_eq_self h.name_begins h.name_ends
  have hread := h.parse?_eq_some hne hline hhides line.kind.colon_notMem_keyword
    h.colon_notMem_name (readFields?_eq_some_iff.2 (.inl ⟨line.kind.trim_keyword, htrim.symm⟩))
  simpa [write, position] using hread

/-- **What is written is read back,** in either order of the fields, iff the location hides no number: no
line of text has a location that hides one. -/
theorem parse?_write_iff (location : Text) (hne : location ≠ []) (hline : '\n' ∉ location) :
    (¬HidesNumber location → ∀ line : Line, line.location = location → line.Writable →
      parse? line.write = some line ∧
      ((∀ kind : Kind, line.name ≠ kind.keyword) → parse? line.writeNameFirst = some line)) ∧
    (HidesNumber location → ∀ s line, '\n' ∉ s → parse? s = some line → line.location ≠ location) := by
  constructor
  · rintro hhides line rfl h
    refine ⟨h.parse?_write hne hline hhides, fun hname => ?_⟩
    · have htrim := Text.trim_eq_self h.name_begins h.name_ends
      have hread := h.parse?_eq_some hne hline hhides h.colon_notMem_name
        line.kind.colon_notMem_keyword (readFields?_eq_some_iff.2
          (.inr ⟨htrim.symm ▸ hname, line.kind.trim_keyword, htrim.symm⟩))
      simpa [writeNameFirst, position] using hread
  · rintro hhides s line hs hparse rfl
    cases hlocate : locate? s with
    | none => simp [parse?, hlocate] at hparse
    | some found =>
      have hcut := shortestCut_of_locate? hlocate
      obtain ⟨number, kind, name, -, -, rfl⟩ := (parse?_of_shortestCut hcut).1 hparse
      exact not_shortestCut_of_hidesNumber hhides hs hcut

/-- A line with colons in its location and in its message. -/
def driveLine : Line :=
  { location := "C:\\src\\a.c".toList, number := 12, name := "check".toList, kind := .closing .fail
    message := some "boom: at x:7:y ".toList }

/-- The only number between two colons is the one behind the location. -/
theorem not_hidesNumber_driveLine : ¬HidesNumber driveLine.location := by
  have hcut : ShortestCut driveLine.write driveLine.location
      ⟨"12".toList, "FAIL".toList, "check".toList, driveLine.message⟩ :=
    locate?_eq_some_iff.1 (by decide +kernel)
  exact fun hhides => not_shortestCut_of_hidesNumber hhides (by decide +kernel) hcut

theorem writable_driveLine : driveLine.Writable where
  number_lt := by decide
  colon_notMem_name := by decide
  name_begins := by
    rintro c hc
    obtain rfl : 'c' = c := Option.some.inj hc
    rfl
  name_ends := by
    rintro c hc
    obtain rfl : 'k' = c := Option.some.inj hc
    rfl
  message_ne_nil := by decide
  newline_notMem_message := by decide
  message_begins := by
    rintro message hmessage c hc
    obtain rfl := Option.some.inj hmessage
    obtain rfl : 'b' = c := Option.some.inj hc
    rfl

/-- The line is read back in both orders; and a text that is a line has not the location `a:1:PASS`, with
which it begins. -/
theorem parse?_write_iff_driveLine :
    parse? "C:\\src\\a.c:12:FAIL:check:boom: at x:7:y ".toList = some driveLine ∧
    parse? "C:\\src\\a.c:12:check:FAIL:boom: at x:7:y ".toList = some driveLine ∧
    HidesNumber "a:1:PASS".toList ∧
    ∃ line, parse? "a:1:PASS:2:check".toList = some line ∧ line.location ≠ "a:1:PASS".toList := by
  have hread := (parse?_write_iff driveLine.location (by decide) (by decide)).1
    not_hidesNumber_driveLine driveLine rfl writable_driveLine
  have hname : ∀ kind : Kind, driveLine.name ≠ kind.keyword := by
    rintro (⟨_ | _ | _⟩ | _) <;> decide
  have hhides : HidesNumber "a:1:PASS".toList :=
    ⟨"a".toList, "1".toList, "PASS:".toList, by decide, by decide, List.all_eq_true.1 (by decide),
      by decide⟩
  obtain ⟨line, hline⟩ : ∃ line, parse? "a:1:PASS:2:check".toList = some line :=
    Option.isSome_iff_exists.1 (by decide +kernel)
  refine ⟨hread.1, hread.2 hname, hhides, line, hline, ?_⟩
  exact (parse?_write_iff "a:1:PASS".toList (by decide) (by decide)).2 hhides _ line (by decide) hline

end Line
end Protocol
end TestBench
