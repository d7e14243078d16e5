/-
# Cases are groups of lines

`Reader` hands out the cases of an output one request at a time and keeps the notes that wait in
between.  What it hands out in all is said of the lines that follow the protocol, taken together: each
closing line makes one case, and the notes of the case are the annotating lines between the closing
line before and it.

| definition | what it is |
| --- | --- |
| `record` | the lines of an output that follow the protocol, noise left out |
| `gather` | the cases of such lines, and the notes that no closing line follows |
| `Reader.logged` | what is logged during a number of requests |

The invariant is `nextFrom_of_gather_cons`: a request that yields a case leaves a reader without waiting
notes, whose remaining lines have the remaining cases.  All that is said of several requests
(`Reader.take_eq`, `Reader.logged_eq`, `Reader.collect_eq`) follows from it by induction on their
number.  What `gather` yields is then read off by cutting the lines in two (`gather_append`).
`readCases_groups` puts both together.
-/

import TestBench.Protocol.Case
import TestBench.Proofs.Text.Lines
import TestBench.Proofs.Text.Utf8
import Mathlib.Algebra.BigOperators.Group.List.Basic
import Mathlib.Algebra.Ring.Nat
import Mathlib.Data.List.DropRight

namespace TestBench
namespace Protocol

/-- The line annotates the next case. -/
def Line.isInfo (line : Line) : Bool := line.kind = .info

/-- The line closes a case. -/
def Line.isClosing (line : Line) : Bool := !line.isInfo

theorem Line.isInfo_of_kind {line : Line} (h : line.kind = .info) : line.isInfo = true := by
  simp [isInfo, h]

theorem Line.not_isInfo_of_kind {line : Line} {status : Status} (h : line.kind = .closing status) :
    line.isInfo = false := by
  simp [isInfo, h]

/-- The lines of an output that follow the protocol: it is cut at its line feeds, and what does not
follow the protocol is left out. -/
def record (output : Text) : List Line :=
  (Text.ofPieces (splitAll (· == '\n') output)).filterMap Line.parse?

theorem record_eq (output : Text) : record output = (Text.lines output).filterMap Line.parse? := by
  rw [record, Text.lines_eq_ofPieces]

/-- The first line that follows the protocol names the location of the output. -/
theorem firstLocation?_eq (output : Text) :
    firstLocation? output = (record output).head?.map Line.location := by
  rw [firstLocation?, ← List.head?_filterMap, record_eq]

theorem decodeOutput_eq_ok_iff {output : Bytes} {text : Text} :
    decodeOutput output = .ok text ↔ Utf8.encode text = output := by
  rw [← Utf8.decode?_eq_ok_iff, decodeOutput]
  cases Utf8.decode? output <;> simp

/-- The cases that lines close, where `pending` waits for the first of them, and the notes that are
left over. -/
def gather : (pending : List Note) → List Line → List Case × List Note
  | pending, [] => ([], pending)
  | pending, line :: rest =>
    match line.kind with
    | .info => gather (pending ++ [line.toNote]) rest
    | .closing status =>
      (line.toCase status pending :: (gather [] rest).1, (gather [] rest).2)

theorem gather_info {line : Line} (h : line.kind = .info) (pending : List Note) (rest : List Line) :
    gather pending (line :: rest) = gather (pending ++ [line.toNote]) rest := by
  rw [gather, h]

theorem gather_closing {line : Line} {status : Status} (h : line.kind = .closing status)
    (pending : List Note) (rest : List Line) :
    gather pending (line :: rest)
      = (line.toCase status pending :: (gather [] rest).1, (gather [] rest).2) := by
  rw [gather, h]

namespace Reader

/-- A reader between two requests: no notes wait. -/
def resting (lines : List Text) : Reader := { lines, pending := [] }

/-- What is logged during the next `count` requests. -/
def logged : (count : Nat) → Reader → List Log.Event
  | 0, _ => []
  | count + 1, reader => reader.next.2.2 ++ logged count reader.next.2.1

theorem nextFrom_noise {raw : Text} (h : Line.parse? raw = none) (rest : List Text)
    (pending : List Note) : nextFrom (raw :: rest) pending = nextFrom rest pending := by
  rw [nextFrom, h]

theorem nextFrom_info {raw : Text} {line : Line} (h : Line.parse? raw = some line)
    (hkind : line.kind = .info) (rest : List Text) (pending : List Note) :
    nextFrom (raw :: rest) pending = nextFrom rest (pending ++ [line.toNote]) := by
  simp only [nextFrom, h, hkind]

theorem nextFrom_closing {raw : Text} {line : Line} {status : Status}
    (h : Line.parse? raw = some line) (hkind : line.kind = .closing status) (rest : List Text)
    (pending : List Note) :
    nextFrom (raw :: rest) pending = (some (line.toCase status pending), resting rest, []) := by
  simp only [nextFrom, h, hkind, resting]

theorem dropped_nil : dropped [] = [] := rfl

theorem gather_noLines : gather [] (([] : List Text).filterMap Line.parse?) = ([], []) := rfl

/-- A request finds no case where the lines close none. -/
theorem nextFrom_of_gather_nil {lines : List Text} {pending left : List Note}
    (h : gather pending (lines.filterMap Line.parse?) = ([], left)) :
    nextFrom lines pending = (none, resting [], dropped left) := by
  induction lines generalizing pending with
  | nil =>
    obtain rfl : pending = left := (Prod.mk.inj h).2
    rfl
  | cons raw rest ih =>
    cases hparse : Line.parse? raw with
    | none =>
      rw [List.filterMap_cons_none hparse] at h
      rw [nextFrom_noise hparse, ih h]
    | some line =>
      rw [List.filterMap_cons_some hparse] at h
      cases hkind : line.kind with
      | info =>
        rw [gather_info hkind] at h
        rw [nextFrom_info hparse hkind, ih h]
      | closing status =>
        rw [gather_closing hkind] at h
        simp at h

/-- **A request takes the first case and leaves the others.**  The reader behind it rests, and fewer
lines are left. -/
theorem nextFrom_of_gather_cons {lines : List Text} {pending left : List Note} {case : Case}
    {cases : List Case} (h : gather pending (lines.filterMap Line.parse?) = (case :: cases, left)) :
    ∃ rest, rest.length < lines.length ∧ nextFrom lines pending = (some case, resting rest, []) ∧
      gather [] (rest.filterMap Line.parse?) = (cases, left) := by
  induction lines generalizing pending with
  | nil => simp [gather] at h
  | cons raw rest ih =>
    cases hparse : Line.parse? raw with
    | none =>
      rw [List.filterMap_cons_none hparse] at h
      obtain ⟨behind, hlen, hnext, hgather⟩ := ih h
      refine ⟨behind, by rw [List.length_cons]; omega, ?_, hgather⟩
      rw [nextFrom_noise hparse, hnext]
    | some line =>
      rw [List.filterMap_cons_some hparse] at h
      cases hkind : line.kind with
      | info =>
        rw [gather_info hkind] at h
        obtain ⟨behind, hlen, hnext, hgather⟩ := ih h
        refine ⟨behind, by rw [List.length_cons]; omega, ?_, hgather⟩
        rw [nextFrom_info hparse hkind, hnext]
      | closing status =>
        rw [gather_closing hkind, Prod.mk.injEq, List.cons.injEq] at h
        obtain ⟨⟨rfl, hcases⟩, hleft⟩ := h
        exact ⟨rest, by simp, nextFrom_closing hparse hkind rest pending, Prod.ext hcases hleft⟩

/-- The answers to `count` requests: the cases in their order, and nothing behind the last. -/
theorem take_eq (count : Nat) (lines : List Text) {cases : List Case} {left : List Note}
    (h : gather [] (lines.filterMap Line.parse?) = (cases, left)) :
    (resting lines).take count
      = (cases.take count).map some ++ List.replicate (count - cases.length) none := by
  induction count generalizing lines cases left with
  | zero => simp [take]
  | succ count ih =>
    rw [take]
    cases cases with
    | nil =>
      have hnext : (resting lines).next = (none, resting [], dropped left) :=
        nextFrom_of_gather_nil h
      rw [hnext]
      have hrest := ih [] gather_noLines
      simp only [List.take_nil, List.map_nil, List.nil_append, List.length_nil, Nat.sub_zero]
        at hrest ⊢
      rw [hrest, List.replicate_succ]
    | cons case cases =>
      obtain ⟨rest, -, hfrom, hgather⟩ := nextFrom_of_gather_cons h
      have hnext : (resting lines).next = (some case, resting rest, []) := hfrom
      rw [hnext]
      simp only [ih rest hgather, List.take_succ_cons, List.map_cons, List.cons_append,
        List.length_cons, Nat.add_sub_add_right]

/-- Only the request that finds the end first logs anything. -/
theorem logged_eq (count : Nat) (lines : List Text) {cases : List Case} {left : List Note}
    (h : gather [] (lines.filterMap Line.parse?) = (cases, left)) :
    (resting lines).logged count = if count ≤ cases.length then [] else dropped left := by
  induction count generalizing lines cases left with
  | zero => simp [logged]
  | succ count ih =>
    rw [logged]
    cases cases with
    | nil =>
      have hnext : (resting lines).next = (none, resting [], dropped left) :=
        nextFrom_of_gather_nil h
      have hrest := ih [] gather_noLines
      rw [hnext, hrest, dropped_nil, ite_self, List.append_nil, List.length_nil,
        if_neg (Nat.not_succ_le_zero count)]
    | cons case cases =>
      obtain ⟨rest, -, hfrom, hgather⟩ := nextFrom_of_gather_cons h
      have hnext : (resting lines).next = (some case, resting rest, []) := hfrom
      rw [hnext, ih rest hgather, List.nil_append, List.length_cons]
      simp only [Nat.add_le_add_iff_right]

/-- Requests up to the end collect all cases; there are no more of them than lines. -/
theorem collect_eq (count : Nat) (lines : List Text) (hcount : lines.length < count)
    {cases : List Case} {left : List Note}
    (h : gather [] (lines.filterMap Line.parse?) = (cases, left)) :
    (resting lines).collect count = (cases, dropped left) := by
  induction count generalizing lines cases left with
  | zero => omega
  | succ count ih =>
    rw [collect]
    cases cases with
    | nil =>
      have hnext : (resting lines).next = (none, resting [], dropped left) :=
        nextFrom_of_gather_nil h
      rw [hnext]
    | cons case cases =>
      obtain ⟨rest, hlen, hfrom, hgather⟩ := nextFrom_of_gather_cons h
      have hnext : (resting lines).next = (some case, resting rest, []) := hfrom
      rw [hnext]
      simp [ih rest (by omega) hgather]

end Reader

/-- **All requests together gather the lines of the output.** -/
theorem readCases_eq (output : Text) :
    readCases output = ((gather [] (record output)).1, Reader.dropped (gather [] (record output)).2) := by
  rw [record_eq]
  exact Reader.collect_eq ((Text.lines output).length + 1) (Text.lines output) (by omega) rfl

theorem cases_eq (output : Text) : cases output = (gather [] (record output)).1 := by
  rw [cases, readCases_eq]

/-! ### What lines gather into -/

/-- Lines cut in two: the second part begins with the notes that the first leaves over. -/
theorem gather_append (pending : List Note) (before rest : List Line) :
    gather pending (before ++ rest)
      = ((gather pending before).1 ++ (gather (gather pending before).2 rest).1,
        (gather (gather pending before).2 rest).2) := by
  induction before generalizing pending with
  | nil => rfl
  | cons line before ih =>
    rw [List.cons_append]
    cases hkind : line.kind with
    | info => rw [gather_info hkind, gather_info hkind, ih]
    | closing status => rw [gather_closing hkind, gather_closing hkind, ih, List.cons_append]

/-- What is left over are the annotating lines behind the last closing line. -/
theorem gather_left (lines : List Line) :
    (gather [] lines).2 = (lines.rtakeWhile Line.isInfo).map Line.toNote := by
  induction lines using List.reverseRecOn with
  | nil => rfl
  | append_singleton lines line ih =>
    rw [gather_append]
    cases hkind : line.kind with
    | info =>
      rw [gather_info hkind, ih, List.rtakeWhile_concat_pos _ _ _ (Line.isInfo_of_kind hkind),
        List.map_append]
      rfl
    | closing status =>
      have hline : ¬line.isInfo = true := by rw [Line.not_isInfo_of_kind hkind]; decide
      rw [gather_closing hkind, List.rtakeWhile_concat_neg _ _ _ hline]
      rfl

/-- There are as many cases as closing lines. -/
theorem length_gather (pending : List Note) (lines : List Line) :
    (gather pending lines).1.length = lines.countP Line.isClosing := by
  induction lines generalizing pending with
  | nil => rfl
  | cons line lines ih =>
    cases hkind : line.kind with
    | info =>
      rw [gather_info hkind, ih, List.countP_cons_of_neg]
      simp [Line.isClosing, Line.isInfo_of_kind hkind]
    | closing status =>
      rw [gather_closing hkind, List.length_cons, ih, List.countP_cons_of_pos]
      simp [Line.isClosing, Line.not_isInfo_of_kind hkind]

/-- The case of a closing line carries the annotating lines right before it. -/
theorem getElem?_gather (before after : List Line) {line : Line} {status : Status}
    (hkind : line.kind = .closing status) :
    (gather [] (before ++ line :: after)).1[before.countP Line.isClosing]?
      = some (line.toCase status ((before.rtakeWhile Line.isInfo).map Line.toNote)) := by
  rw [gather_append, gather_closing hkind, gather_left, ← length_gather []]
  simp

/-- No note is lost and none is there twice. -/
theorem sum_notes_gather (pending : List Note) (lines : List Line) :
    ((gather pending lines).1.map fun case => case.notes.length).sum + (gather pending lines).2.length
      = pending.length + lines.countP Line.isInfo := by
  induction lines generalizing pending with
  | nil => simp [gather]
  | cons line lines ih =>
    cases hkind : line.kind with
    | info =>
      rw [gather_info hkind, ih, List.countP_cons_of_pos (Line.isInfo_of_kind hkind),
        List.length_append, List.length_singleton]
      omega
    | closing status =>
      have hline : ¬line.isInfo = true := by rw [Line.not_isInfo_of_kind hkind]; decide
      have hrest := ih []
      rw [List.length_nil, Nat.zero_add] at hrest
      rw [gather_closing hkind, List.countP_cons_of_neg hline, List.map_cons, List.sum_cons, ← hrest]
      simp only [Line.toCase]
      omega

/-- The statuses of the cases are those of the closing lines. -/
theorem exists_status_gather_iff (pending : List Note) (lines : List Line) {status : Status} :
    (∃ case ∈ (gather pending lines).1, case.status = status)
      ↔ ∃ line ∈ lines, line.kind = .closing status := by
  induction lines generalizing pending with
  | nil => simp [gather]
  | cons line lines ih =>
    cases hkind : line.kind with
    | info =>
      rw [gather_info hkind, ih, List.exists_mem_cons_iff, hkind]
      simp
    | closing other =>
      rw [gather_closing hkind, List.exists_mem_cons_iff, List.exists_mem_cons_iff, ih, hkind,
        Kind.closing.injEq]
      rfl

/-- Some line of the output reports a check that failed. -/
def ReportsFailure (output : Text) : Prop :=
  ∃ raw ∈ Text.lines output, ∃ line, Line.parse? raw = some line ∧ line.kind = .closing .fail

/-- A case failed iff some line says so. -/
theorem exists_failed_case_iff (output : Text) :
    (∃ case ∈ cases output, case.status = .fail) ↔ ReportsFailure output := by
  rw [cases_eq, exists_status_gather_iff, record_eq]
  constructor
  · rintro ⟨line, hmem, hkind⟩
    obtain ⟨raw, hraw, hparse⟩ := List.mem_filterMap.1 hmem
    exact ⟨raw, hraw, line, hparse, hkind⟩
  · rintro ⟨raw, hraw, line, hparse, hkind⟩
    exact ⟨line, List.mem_filterMap.2 ⟨raw, hraw, hparse⟩, hkind⟩

/-- The event of `count` notes that no closing line follows. -/
def droppedEvent (count : Nat) : Log.Event :=
  { level := .debug, target := .protocol
    message := "dropping ".toList ++ Decimal.write count
      ++ " annotation(s) not followed by a terminal line".toList }

theorem Reader.dropped_eq (pending : List Note) :
    Reader.dropped pending = if pending.length = 0 then [] else [droppedEvent pending.length] := by
  unfold Reader.dropped droppedEvent
  simp only [List.length_eq_zero_iff]

/-- **The cases of an output are the groups of its lines.**  In order, each closing line has one case:
with its number, name, status and message, and with the annotating lines since the closing line before
as notes.  The annotating lines that no closing line follows are counted by the one event that is
logged, so that none is lost.  Any number of requests yields the first cases, nothing behind the last,
and that event at most once. -/
theorem readCases_groups (output : Text) :
    (cases output).length = (record output).countP Line.isClosing ∧
    (∀ before line after status, record output = before ++ line :: after →
      line.kind = .closing status →
        (cases output)[before.countP Line.isClosing]? = some
          { line := line.number, name := line.name, status, message := line.message
            notes := (before.rtakeWhile Line.isInfo).map fun info =>
              { position := info.location ++ ':' :: Decimal.write info.number
                message := info.message.getD info.name } }) ∧
    (∃ left, (readCases output).2 = (if left = 0 then [] else [droppedEvent left]) ∧
      ((cases output).map fun case => case.notes.length).sum + left
        = (record output).countP Line.isInfo) ∧
    ∀ count, (Reader.ofText output).take count
        = ((cases output).take count).map some
          ++ List.replicate (count - (cases output).length) none ∧
      (Reader.ofText output).logged count
        = if count ≤ (cases output).length then [] else (readCases output).2 := by
  have hcases : cases output = (gather [] (record output)).1 := by rw [cases, readCases_eq]
  have hevents : (readCases output).2 = Reader.dropped (gather [] (record output)).2 := by
    rw [readCases_eq]
  have hrecord : gather [] ((Text.lines output).filterMap Line.parse?)
      = ((gather [] (record output)).1, (gather [] (record output)).2) := by
    rw [record_eq]
  rw [hcases, hevents]
  refine ⟨length_gather _ _, ?_, ⟨(gather [] (record output)).2.length, ?_, ?_⟩, fun count => ⟨?_, ?_⟩⟩
  · intro before line after status hsplit hkind
    rw [hsplit, getElem?_gather before after hkind]
    rfl
  · exact Reader.dropped_eq _
  · rw [sum_notes_gather, List.length_nil, Nat.zero_add]
  · exact Reader.take_eq count _ hrecord
  · exact Reader.logged_eq count _ hrecord

/-- The groups of an output with noise between a note and its case, and a note behind it. -/
theorem readCases_groups_noisy :
    record "a.c:1:INFO:n: hi\r\n--\na.c:2:PASS:one\na.c:3:INFO:m".toList
      = [{ location := "a.c".toList, number := 1, name := "n".toList, kind := .info
           message := some "hi".toList }]
        ++ { location := "a.c".toList, number := 2, name := "one".toList
             kind := .closing .pass, message := none }
        :: [{ location := "a.c".toList, number := 3, name := "m".toList, kind := .info
              message := none }] ∧
    (cases "a.c:1:INFO:n: hi\r\n--\na.c:2:PASS:one\na.c:3:INFO:m".toList)[0]? = some
      { line := 2, name := "one".toList, status := .pass, message := none
        notes := [{ position := "a.c:1".toList, message := "hi".toList }] } := by
  have hsplit : record "a.c:1:INFO:n: hi\r\n--\na.c:2:PASS:one\na.c:3:INFO:m".toList
      = [{ location := "a.c".toList, number := 1, name := "n".toList, kind := .info
           message := some "hi".toList }]
        ++ { location := "a.c".toList, number := 2, name := "one".toList
             kind := .closing .pass, message := none }
        :: [{ location := "a.c".toList, number := 3, name := "m".toList, kind := .info
              message := none }] := by
    decide +kernel
  exact ⟨hsplit, (readCases_groups _).2.1 _ _ _ .pass hsplit rfl⟩

end Protocol
end TestBench
