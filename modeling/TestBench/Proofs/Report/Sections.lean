/-
# What the sections list

Below the case table stand two sections, each for the executions of one kind.

| section | lists | and shows of each |
| --- | --- | --- |
| terminated tests | those that did not end well and have a case or a remark | location, outcome, cases with notes |
| sanitizer output | those that wrote to standard error | location, and what was written as whole lines |

`Lists` says what it means that the bytes of a section list just these executions: each once and in the order of
the run, with one header above, and no byte if there are none.  Both sections do so (`sections_list`); what they show
is said entry by entry (`drillsDown_render`, `dumps_render`).
-/

import TestBench.Proofs.Report.CaseTable

namespace TestBench
namespace Report

/-! ### What is shown -/

/-- The bytes of a note below its case. -/
def noteBlock (note : Protocol.Note) : Bytes :=
  Utf8.encode ("        ".toList ++ note.position ++ ": ".toList ++ note.message ++ "\n".toList)

/-- The bytes of a case in a drill-down: its name and line, and its notes below. -/
def caseBlock (color : Bool) (case : Protocol.Case) : Bytes :=
  Utf8.encode "    ".toList
    ++ (Piece.styled (Style.ofStatus case.status) (case.name ++ ':' :: Decimal.write case.line)).render color
    ++ Utf8.encode "\n".toList ++ (case.notes.map noteBlock).flatten

/-- The bytes of a heading: a header of a section, or the location of an execution. -/
def heading (color : Bool) (text : Text) : Bytes := (Piece.styled .strong text).render color

/-- The bytes drill an execution down: its location, its outcome in parentheses, and its cases below. -/
def DrillsDown (color : Bool) (base : Option Text) (execution : Run.Execution) (block : Bytes) : Prop :=
  ∃ outcome, execution.outcome? = some outcome ∧
    block = heading color (Path.display execution.location base)
      ++ Utf8.encode (" (".toList ++ outcome ++ ")\n".toList) ++ (execution.cases.map (caseBlock color)).flatten

/-- The bytes end a line. -/
def EndsLine (bytes : Bytes) : Prop := ∃ front, bytes = front ++ Utf8.encode "\n".toList

/-- The bytes dump the output of an execution: its location, and the output unchanged, whose last line is ended if
it is not. -/
def Dumps (color : Bool) (base : Option Text) (execution : Run.Execution) (block : Bytes) : Prop :=
  ∃ ending, block = heading color (Path.display execution.location base) ++ Utf8.encode "\n".toList
      ++ execution.stderr ++ ending ∧
    (EndsLine execution.stderr ∧ ending = [] ∨ ¬ EndsLine execution.stderr ∧ ending = Utf8.encode "\n".toList)

/-- The bytes are a section that lists the executions of a kind, each once and in their order, in a block that shows
it; the header stands above, once, and without such executions there are no bytes. -/
def Lists (color : Bool) (header : Text) (IsListed : Run.Execution → Prop)
    (Shows : Run.Execution → Bytes → Prop) (executions : List Run.Execution) (blocks : List Bytes)
    (bytes : Bytes) : Prop :=
  ∃ listed : List (Run.Execution × Nat),
    (listed.Pairwise fun a b => a.2 < b.2) ∧
    (∀ execution place, (execution, place) ∈ listed ↔ executions[place]? = some execution ∧ IsListed execution) ∧
    List.Forall₂ (fun entry block => Shows entry.1 block) listed blocks ∧
    bytes = if listed = [] then [] else
      Utf8.encode "\n".toList ++ heading color header ++ Utf8.encode "\n".toList ++ blocks.flatten

/-! ### What the pieces show -/

section

variable (color : Bool) (base : Option Text)

theorem render_notePieces (note : Protocol.Note) : render color (notePieces note) = noteBlock note := by
  simp [notePieces, noteBlock, render, Piece.render, indent, Piece.spaces, Piece.lineEnd]

theorem render_drillDownCase (case : Protocol.Case) : render color (drillDownCase case) = caseBlock color case := by
  have hnotes : render color (case.notes.flatMap notePieces) = (case.notes.map noteBlock).flatten := by
    simp only [render_flatMap, render_notePieces]
  rw [drillDownCase, render_append, hnotes, caseBlock]
  simp [render, Piece.render, caseTitle, indent, Piece.spaces, Piece.lineEnd, Style.paint]

/-- **A drill-down shows the outcome**, which there always is, and all cases. -/
theorem drillsDown_render {execution : Run.Execution} (h : execution.isOk = false) :
    DrillsDown color base execution (render color (drillDown base execution)) := by
  obtain ⟨outcome, houtcome⟩ := Option.isSome_iff_exists.1 (Run.Execution.isSome_outcome?_of_not_isOk h)
  have hcases : render color (execution.cases.flatMap drillDownCase)
      = (execution.cases.map (caseBlock color)).flatten := by
    simp only [render_flatMap, render_drillDownCase]
  refine ⟨outcome, houtcome, ?_⟩
  rw [drillDown, render_append, render_append, hcases, outcomePieces, houtcome, heading]
  simp [render, Piece.render, Piece.lineEnd, shownLocation]

theorem endsLine_iff {bytes : Bytes} : EndsLine bytes ↔ bytes.getLast? = some 10 := by
  rw [List.getLast?_eq_some_iff]
  rfl

/-- **A dump shows the output unchanged**, and ends its last line if it is open. -/
theorem dumps_render (execution : Run.Execution) :
    Dumps color base execution (render color (dump base execution)) := by
  refine ⟨render color (missingLineEnd execution.stderr), ?_, ?_⟩
  · rw [dump, render_append, heading]
    simp [render, Piece.render, Piece.lineEnd, shownLocation]
  · rw [endsLine_iff, missingLineEnd]
    by_cases hend : execution.stderr.getLast? = some 10
    · exact .inl ⟨hend, by rw [if_pos hend]; rfl⟩
    · exact .inr ⟨hend, by rw [if_neg hend]; rfl⟩

end

/-! ### What is listed -/

/-- The elements of a kind with their places. -/
theorem map_fst_filter_zipIdx {α : Type} (p : α → Bool) (l : List α) :
    (l.zipIdx.filter (p ∘ Prod.fst)).map Prod.fst = l.filter p := by
  rw [← List.filter_map, List.zipIdx_map_fst]

theorem render_headed (color : Bool) (header : Text) (entries : List (List Piece)) :
    render color (headed header entries) = if entries = [] then [] else
      Utf8.encode "\n".toList ++ heading color header ++ Utf8.encode "\n".toList
        ++ (entries.map (render color)).flatten := by
  have hentries : render color entries.flatten = (entries.map (render color)).flatten := by
    have hflat := render_flatMap color entries id
    rwa [List.flatMap_id] at hflat
  rw [headed]
  split
  · rfl
  · rw [render_append, hentries, heading]
    simp [render, Piece.render, Piece.lineEnd]

/-- **A section with a header lists what it is made of.** -/
theorem lists_headed {color : Bool} {IsListed : Run.Execution → Prop} {Shows : Run.Execution → Bytes → Prop}
    {isListed : Run.Execution → Bool} {entry : Run.Execution → List Piece}
    (hlisted : ∀ execution, isListed execution = true ↔ IsListed execution)
    (hshows : ∀ execution, IsListed execution → Shows execution (render color (entry execution)))
    (header : Text) (executions : List Run.Execution) :
    Lists color header IsListed Shows executions
      ((executions.filter isListed).map fun execution => render color (entry execution))
      (render color (headed header ((executions.filter isListed).map entry))) := by
  have hfirst := map_fst_filter_zipIdx isListed executions
  refine ⟨executions.zipIdx.filter (isListed ∘ Prod.fst), (pairwise_zipIdx executions).filter _, ?_, ?_, ?_⟩
  · intro execution place
    rw [List.mem_filter, List.mem_zipIdx_iff_getElem?, Function.comp_apply, hlisted]
  · rw [← hfirst, List.map_map, List.forall₂_map_right_iff, List.forall₂_same]
    intro listed hmem
    exact hshows listed.1 ((hlisted listed.1).1 (List.mem_filter.1 hmem).2)
  · have hempty : (executions.filter isListed).map entry = []
        ↔ executions.zipIdx.filter (isListed ∘ Prod.fst) = [] := by
      rw [List.map_eq_nil_iff, ← hfirst, List.map_eq_nil_iff]
    rw [render_headed, List.map_map]
    simp only [hempty]
    rfl

/-- An execution did not end well and has a case or a remark. -/
def IsDrilledDown (execution : Run.Execution) : Prop :=
  execution.status ≠ .ok ∧ (execution.cases ≠ [] ∨ execution.diagnostic ≠ none)

theorem isDrilledDown_iff (execution : Run.Execution) :
    isDrilledDown execution = true ↔ IsDrilledDown execution := by
  simp [isDrilledDown, IsDrilledDown, Run.Execution.isOk, Option.isSome_iff_ne_none]

variable (reporter : Reporter) (executions : List Run.Execution)

/-- The section of the terminated tests lists those that did not end well, as far as there is something to say. -/
theorem lists_terminatedSection :
    Lists reporter.color "Terminated tests:".toList IsDrilledDown (DrillsDown reporter.color reporter.base) executions
      ((executions.filter isDrilledDown).map fun execution => render reporter.color (drillDown reporter.base execution))
      (reporter.writeTerminated executions .unbounded).1.taken := by
  rw [(plays_writeTerminated reporter executions).of_inRange (inRange_terminatedSection _ _)]
  refine lists_headed isDrilledDown_iff (fun execution h => drillsDown_render reporter.color reporter.base ?_) _ executions
  exact decide_eq_false h.1

/-- The section of the sanitizer output lists those that wrote any. -/
theorem lists_sanitizerSection :
    Lists reporter.color "Sanitizer output:".toList (fun execution => execution.stderr ≠ [])
      (Dumps reporter.color reporter.base) executions
      ((executions.filter hasSanitizerOutput).map fun execution => render reporter.color (dump reporter.base execution))
      (reporter.writeSanitizerOutput executions .unbounded).1.taken := by
  rw [(plays_writeSanitizerOutput reporter executions).of_inRange (inRange_sanitizerSection _ _)]
  refine lists_headed (fun execution => ?_) (fun execution _ => dumps_render reporter.color reporter.base execution) _
    executions
  simp [hasSanitizerOutput]

/-- **The sections account for exactly the right executions.**  The first lists those that did not end well and have a
case or a remark, with location, outcome, and all cases and notes; the second those that wrote to standard error,
however they ended, with location and output.  Each is listed once and in the order of the run, below one header, and a
section without executions has no byte. -/
theorem sections_list :
    (∃ blocks, Lists reporter.color "Terminated tests:".toList
      (fun execution => execution.status ≠ .ok ∧ (execution.cases ≠ [] ∨ execution.diagnostic ≠ none))
      (DrillsDown reporter.color reporter.base) executions blocks
      (reporter.writeTerminated executions .unbounded).1.taken) ∧
    ∃ blocks, Lists reporter.color "Sanitizer output:".toList (fun execution => execution.stderr ≠ [])
      (Dumps reporter.color reporter.base) executions blocks
      (reporter.writeSanitizerOutput executions .unbounded).1.taken :=
  ⟨⟨_, lists_terminatedSection reporter executions⟩, ⟨_, lists_sanitizerSection reporter executions⟩⟩

end Report
end TestBench
