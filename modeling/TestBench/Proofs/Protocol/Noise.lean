/-
# Noise and line ends

What an output reports is in the lines that follow the protocol.  How its lines end does not matter, nor
what stands between them.

| definition | what it is |
| --- | --- |
| `LineEnd` | a line feed, alone or behind a carriage return |
| `Bare` | a line without its end: no line feed, no carriage return at its end |
| `written` | lines with their ends, one after the other |
| `writtenOpen` | the same without the end of the last line |
| `Noisier` | lines with others between them that do not follow the protocol |

Bare lines are read as they were written, whatever ends them (`lines_written`); the last one may be left
open, since of all lines only an empty one is lost by it (`record_writtenOpen`).  And noise is not in the
record (`Noisier.filterMap_parse?`).
-/

import TestBench.Proofs.Protocol.Grouping

namespace TestBench
namespace Protocol

/-- What ends a line. -/
inductive LineEnd where
  | feed
  | returnFeed
  deriving DecidableEq, Repr

namespace LineEnd

/-- How a line end is written. -/
def text : LineEnd → Text
  | feed => "\n".toList
  | returnFeed => "\r\n".toList

end LineEnd

/-- A line that can be told from its end. -/
structure Bare (line : Text) : Prop where
  newline_notMem : '\n' ∉ line
  getLast?_ne : line.getLast? ≠ some '\r'

/-- Lines with their ends. -/
def written (lines : List (Text × LineEnd)) : Text :=
  lines.flatMap fun (line, lineEnd) => line ++ lineEnd.text

/-- Lines with their ends, but the last one, which is left open. -/
def writtenOpen : List (Text × LineEnd) → Text
  | [] => []
  | [(line, _)] => line
  | first :: next :: rest => written [first] ++ writtenOpen (next :: rest)

/-- Lines that line feeds end. -/
def fed (lines : List Text) : List (Text × LineEnd) := lines.map fun line => (line, .feed)

theorem map_fst_fed (lines : List Text) : (fed lines).map Prod.fst = lines := by
  rw [fed, List.map_map]
  exact List.map_id lines

/-- The second lines are the first with noise between them. -/
inductive Noisier : List Text → List Text → Prop
  | nil : Noisier [] []
  | keep {lines more : List Text} (line : Text) (h : Noisier lines more) :
      Noisier (line :: lines) (line :: more)
  | noise {line : Text} {lines more : List Text} (bare : Bare line) (unread : Line.parse? line = none)
      (h : Noisier lines more) : Noisier lines (line :: more)

/-! ### Lines with their ends -/

theorem Bare.withoutReturn {line : Text} (h : Bare line) : Text.withoutReturn line = line :=
  if_neg h.getLast?_ne

/-- **A line is read as it was written,** whatever ends it. -/
theorem Bare.lines_append {line : Text} (h : Bare line) (lineEnd : LineEnd) (s : Text) :
    Text.lines (line ++ lineEnd.text ++ s) = line :: Text.lines s := by
  cases lineEnd with
  | feed =>
    have hread := Text.lines_append_newline line s
    rw [Text.splitAll_newline_of_notMem h.newline_notMem, List.map_singleton, h.withoutReturn] at hread
    rw [List.append_assoc]
    exact hread
  | returnFeed =>
    have hread := Text.lines_append_newline (line ++ ['\r']) s
    have hreturn : '\n' ∉ line ++ ['\r'] := by simp [h.newline_notMem]
    have hline : Text.withoutReturn (line ++ ['\r']) = line := by simp [Text.withoutReturn]
    rw [Text.splitAll_newline_of_notMem hreturn, List.map_singleton, hline, List.append_assoc] at hread
    rw [List.append_assoc]
    exact hread

theorem written_cons (first : Text × LineEnd) (rest : List (Text × LineEnd)) :
    written (first :: rest) = first.1 ++ first.2.text ++ written rest :=
  List.flatMap_cons

theorem lines_written {lines : List (Text × LineEnd)} (h : ∀ line ∈ lines.map Prod.fst, Bare line) :
    Text.lines (written lines) = lines.map Prod.fst := by
  induction lines with
  | nil => rfl
  | cons first rest ih =>
    rw [List.map_cons, List.forall_mem_cons] at h
    rw [written_cons, h.1.lines_append, ih h.2, List.map_cons]

theorem record_written {lines : List (Text × LineEnd)} (h : ∀ line ∈ lines.map Prod.fst, Bare line) :
    record (written lines) = (lines.map Prod.fst).filterMap Line.parse? := by
  rw [record_eq, lines_written h]

/-- **The last line may be left open.** -/
theorem record_writtenOpen {lines : List (Text × LineEnd)}
    (h : ∀ line ∈ lines.map Prod.fst, Bare line) :
    record (writtenOpen lines) = (lines.map Prod.fst).filterMap Line.parse? := by
  rw [record_eq]
  fun_induction writtenOpen lines with
  | case1 => rfl
  | case2 line lineEnd =>
    rw [Text.lines_of_notMem (h line List.mem_cons_self).newline_notMem]
    split_ifs with hempty
    · rw [hempty]
      rfl
    · rfl
  | case3 first next rest ih =>
    rw [List.map_cons, List.forall_mem_cons] at h
    rw [written_cons, written, List.flatMap_nil, List.append_nil, h.1.lines_append, List.map_cons,
      List.filterMap_cons, List.filterMap_cons, ih h.2]

/-! ### Lines with noise between them -/

namespace Noisier

variable {lines more : List Text}

theorem bare (h : Noisier lines more) (hlines : ∀ line ∈ lines, Bare line) :
    ∀ line ∈ more, Bare line := by
  induction h with
  | nil => exact hlines
  | keep line _ ih =>
    rw [List.forall_mem_cons] at hlines ⊢
    exact ⟨hlines.1, ih hlines.2⟩
  | noise hbare _ _ ih => exact List.forall_mem_cons.2 ⟨hbare, ih hlines⟩

/-- **Noise is not in the record.** -/
theorem filterMap_parse? (h : Noisier lines more) :
    more.filterMap Line.parse? = lines.filterMap Line.parse? := by
  induction h with
  | nil => rfl
  | keep line _ ih => rw [List.filterMap_cons, List.filterMap_cons, ih]
  | noise _ hunread _ ih => rw [List.filterMap_cons_none hunread, ih]

end Noisier

/-- Outputs with the same record report the same. -/
theorem readCases_congr {s t : Text} (h : record s = record t) :
    readCases s = readCases t ∧ firstLocation? s = firstLocation? t := by
  rw [readCases_eq, readCases_eq, firstLocation?_eq, firstLocation?_eq, h]
  exact ⟨rfl, rfl⟩

/-- **Noise and line ends do not matter.**  From lines that line feeds end, the same cases are read, the
same is logged and the same location is named, when noise is put between the lines, any of them ends with
a carriage return and a line feed, and the last is left open. -/
theorem readCases_written {lines : List Text} (hlines : ∀ line ∈ lines, Bare line)
    {edited : List (Text × LineEnd)} (h : Noisier lines (edited.map Prod.fst)) {output : Text}
    (houtput : output = written edited ∨ output = writtenOpen edited) :
    readCases output = readCases (written (fed lines)) ∧
      firstLocation? output = firstLocation? (written (fed lines)) := by
  have hrecord : record output = lines.filterMap Line.parse? := by
    rw [← h.filterMap_parse?]
    rcases houtput with rfl | rfl
    · exact record_written (h.bare hlines)
    · exact record_writtenOpen (h.bare hlines)
  apply readCases_congr
  rw [hrecord, record_written (by rwa [map_fst_fed]), map_fst_fed]

/-- A note, and the line that closes its case. -/
def quietLines : List Text := ["a.c:1:INFO:n: hi".toList, "a.c:2:PASS:one".toList]

theorem bare_quietLines : ∀ line ∈ quietLines, Bare line := by
  simp only [quietLines, List.forall_mem_cons]
  exact ⟨⟨by decide, by decide⟩, ⟨by decide, by decide⟩, nofun⟩

/-- The same lines with others between them, and carriage returns at the ends of some. -/
def noisyLines : List (Text × LineEnd) :=
  [("Unity test run".toList, .returnFeed), ("a.c:1:INFO:n: hi".toList, .feed), ([], .returnFeed),
    ("a.c:2:PASS:one".toList, .returnFeed), ("--".toList, .returnFeed)]

theorem noisier_noisyLines : Noisier quietLines (noisyLines.map Prod.fst) := by
  have hrun : Line.parse? "Unity test run".toList = none := by decide +kernel
  have hempty : Line.parse? [] = none := rfl
  have hrule : Line.parse? "--".toList = none := by decide +kernel
  exact .noise ⟨by decide, by decide⟩ hrun (.keep _ (.noise ⟨by decide, by decide⟩ hempty
    (.keep _ (.noise ⟨by decide, by decide⟩ hrule .nil))))

/-- The note finds its case, with the last line left open too. -/
theorem readCases_written_noisyLines :
    writtenOpen noisyLines
      = "Unity test run\r\na.c:1:INFO:n: hi\n\r\na.c:2:PASS:one\r\n--".toList ∧
    readCases (written noisyLines) = readCases "a.c:1:INFO:n: hi\na.c:2:PASS:one\n".toList ∧
    readCases (writtenOpen noisyLines) = readCases "a.c:1:INFO:n: hi\na.c:2:PASS:one\n".toList ∧
    firstLocation? (writtenOpen noisyLines) = some "a.c".toList := by
  have hended := readCases_written bare_quietLines noisier_noisyLines (.inl rfl)
  have hopen := readCases_written bare_quietLines noisier_noisyLines (.inr rfl)
  exact ⟨by decide +kernel, hended.1, hopen.1, hopen.2.trans (by decide +kernel)⟩

end Protocol
end TestBench
