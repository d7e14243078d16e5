/-
# Outputs that are cut short

A test binary that is killed, or whose pipe is given up, leaves a beginning of its output.  The lines that
a line feed ended before the cut are those of the whole output (`record_ended_append`), so the cases that
they close are the first cases of the whole output.  Behind them stands one line at most that nothing
ended; it may be read as another line than the one it is a beginning of, and close a case of its own
(`of_mem_gather_toList`).  `cases_cutOff` says what such an output still tells.
-/

import TestBench.Proofs.Protocol.Grouping

namespace TestBench
namespace Protocol

/-- What follows an output adds its own lines to those that are ended. -/
theorem record_ended_append (s t : Text) :
    record (Text.ended s ++ t) = record (Text.ended s) ++ record t := by
  simp only [record_eq, Text.lines_ended_append, List.filterMap_append]

/-- A line that nothing ends, if it follows the protocol. -/
theorem record_openLine (output : Text) :
    record (Text.openLine output) = (Line.parse? (Text.openLine output)).toList := by
  rw [record_eq, Text.lines_of_notMem (Text.newline_notMem_openLine output)]
  by_cases hempty : Text.openLine output = []
  · rw [hempty]
    rfl
  · rw [if_neg hempty]
    cases hparse : Line.parse? (Text.openLine output) with
    | none => rw [List.filterMap_cons_none hparse]; rfl
    | some line => rw [List.filterMap_cons_some hparse]; rfl

theorem record_eq_ended_append (output : Text) :
    record output = record (Text.ended output) ++ (Line.parse? (Text.openLine output)).toList := by
  rw [← record_openLine, ← record_ended_append, Text.ended_append_openLine]

/-- The notes that wait behind the lines that are ended. -/
def waiting (output : Text) : List Note :=
  ((record (Text.ended output)).rtakeWhile Line.isInfo).map Line.toNote

/-- **The lines that are ended close the first cases,** and what follows them closes the others. -/
theorem cases_ended_append (s t : Text) :
    cases (Text.ended s ++ t) = cases (Text.ended s) ++ (gather (waiting s) (record t)).1 := by
  rw [cases_eq, cases_eq, record_ended_append, gather_append, gather_left]
  rfl

theorem length_gather_toList (pending : List Note) (line? : Option Line) :
    (gather pending line?.toList).1.length ≤ 1 := by
  rw [length_gather]
  refine List.countP_le_length.trans ?_
  cases line? <;> simp

/-- The case that one line closes. -/
theorem of_mem_gather_toList {pending : List Note} {line? : Option Line} {case : Case}
    (h : case ∈ (gather pending line?.toList).1) :
    ∃ line status, line? = some line ∧ line.kind = .closing status ∧
      case = line.toCase status pending := by
  cases line? with
  | none => simp [gather] at h
  | some line =>
    rw [Option.toList_some] at h
    cases hkind : line.kind with
    | info =>
      rw [gather_info hkind] at h
      simp [gather] at h
    | closing status =>
      rw [gather_closing hkind] at h
      exact ⟨line, status, rfl, hkind, by simpa [gather] using h⟩

/-- **A cut changes no case that was closed before.**  The cases of an output that is cut short are the
first cases of the whole output, with all their parts, and one more at most, which the line closes that
nothing ended; there is none where nothing was printed, or a line feed last.  Where a line that follows
the protocol was ended, both outputs name the same location. -/
theorem cases_cutOff {printed captured : Bytes} {whole cut : Text} (hpart : captured <+: printed)
    (hwhole : decodeOutput printed = .ok whole) (hcut : decodeOutput captured = .ok cut) :
    ∃ extra, cases cut = cases (Text.ended cut) ++ extra ∧
      cases (Text.ended cut) <+: cases whole ∧
      extra.length ≤ 1 ∧
      (∀ case ∈ extra, ∃ line status, Line.parse? (Text.openLine cut) = some line ∧
        line.kind = .closing status ∧ case = line.toCase status (waiting cut)) ∧
      (cut = [] ∨ cut.getLast? = some '\n' → extra = []) ∧
      (record (Text.ended cut) ≠ [] → firstLocation? cut = firstLocation? whole) := by
  obtain ⟨more, hmore⟩ := hpart
  rw [← decodeOutput_eq_ok_iff.1 hwhole, ← decodeOutput_eq_ok_iff.1 hcut] at hmore
  obtain ⟨rest, -, hrest⟩ := Utf8.exists_eq_append_of_encode_eq hmore.symm
  have hsplit : whole = Text.ended cut ++ (Text.openLine cut ++ rest) := by
    rw [hrest, ← List.append_assoc, Text.ended_append_openLine]
  have hcases := cases_ended_append cut (Text.openLine cut)
  rw [Text.ended_append_openLine, record_openLine] at hcases
  refine ⟨_, hcases, ?_, length_gather_toList _ _, fun case => of_mem_gather_toList, ?_, ?_⟩
  · rw [hsplit, cases_ended_append]
    exact List.prefix_append _ _
  · intro hended
    rw [Text.openLine_eq_nil hended]
    rfl
  · intro hended
    rw [firstLocation?_eq, firstLocation?_eq, hsplit, record_ended_append, record_eq_ended_append,
      List.head?_append_of_ne_nil _ hended, List.head?_append_of_ne_nil _ hended]

/-- A note and three cases, and a note behind them. -/
def wholeOutput : Text :=
  "a.c:1:INFO:n: hi\na.c:2:PASS:one\r\na.c:3:INFO:m\nb.c:4:two:IGNORE: later\n".toList

/-- The same, cut in the message of its last case. -/
def cutOutput : Text := "a.c:1:INFO:n: hi\na.c:2:PASS:one\r\na.c:3:INFO:m\nb.c:4:two:IGNORE: la".toList

/-- The case that the open line closes: a shorter message than it was to have. -/
def cutCase : Case :=
  { line := 4, name := "two".toList, status := .ignore, message := some "la".toList
    notes := [{ position := "a.c:3".toList, message := "m".toList }] }

/-- The first case is that of the whole output.  The second comes from the open line, and keeps the note
that waits. -/
theorem cases_cutOff_inMessage :
    Utf8.encode cutOutput <+: Utf8.encode wholeOutput ∧
    cases cutOutput = cases (Text.ended cutOutput) ++ [cutCase] ∧ cutCase ∉ cases wholeOutput ∧
    cases (Text.ended cutOutput) <+: cases wholeOutput ∧
    (∃ line status, Line.parse? (Text.openLine cutOutput) = some line ∧ line.kind = .closing status ∧
      cutCase = line.toCase status (waiting cutOutput)) ∧
    firstLocation? cutOutput = firstLocation? wholeOutput := by
  have hpart : Utf8.encode cutOutput <+: Utf8.encode wholeOutput :=
    ⟨Utf8.encode "ter\n".toList, by decide +kernel⟩
  have hcut : cases cutOutput = cases (Text.ended cutOutput) ++ [cutCase] := by decide +kernel
  obtain ⟨extra, hcases, hfirst, -, hmem, -, hlocation⟩ := cases_cutOff hpart
    (decodeOutput_eq_ok_iff.2 rfl) (decodeOutput_eq_ok_iff.2 rfl)
  obtain rfl : extra = [cutCase] := List.append_cancel_left (hcases.symm.trans hcut)
  exact ⟨hpart, hcut, by decide +kernel, hfirst, hmem cutCase (List.mem_singleton_self _),
    hlocation (by decide +kernel)⟩

end Protocol
end TestBench
