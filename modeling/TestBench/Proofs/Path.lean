/-
# Components of joined and written paths

The components of a path are its steps (`steps`: names and parents), behind the root, behind a `.` in front,
or by themselves.  A relative path that is joined to a directory adds its steps to the components of the
directory (`components_join_of_relative`), so a file name makes a child of it (`components_join`).

Steps can be written as a path, and are read back from it (`components_write`).
-/

import Mathlib.Data.List.Basic
import Mathlib.Tactic.SplitIfs
import TestBench.Path
import TestBench.Proofs.Text.Basic

namespace TestBench

namespace Path

/-- What a file may be called. -/
def IsFileName (name : Text) : Prop := name ≠ [] ∧ '/' ∉ name ∧ name ≠ ".".toList ∧ name ≠ "..".toList

variable {base path name : Text}

theorem parts_of_notMem (h : '/' ∉ name) : parts name = [name] :=
  splitAll_of_forall_not fun _ hc => decide_eq_false fun heq => h (heq ▸ hc)

theorem parts_append_slash (path rest : Text) : parts (path ++ '/' :: rest) = parts path ++ parts rest :=
  splitAll_append_cons (p := fun c => decide (c = '/')) (by decide) path rest

theorem slash_notMem_of_mem_parts {part : Text} (h : part ∈ parts path) : '/' ∉ part := fun hslash =>
  absurd (mem_of_mem_splitAll h hslash).2 (by decide)

/-- A part that is a file name is one component. -/
theorem IsFileName.ofPart? (h : IsFileName name) : Component.ofPart? name = some (.name name) := by
  obtain ⟨hne, -, hdot, hdots⟩ := h
  rw [Component.ofPart?, if_neg (not_or.2 ⟨hne, hdot⟩), if_neg hdots]

theorem isAbsolute_of_notMem (h : '/' ∉ name) : isAbsolute name = false :=
  decide_eq_false fun heq => h (List.mem_of_head? heq)

/-! ### Steps -/

/-- A component that may stand behind another one. -/
inductive Component.IsStep : Component → Prop
  | parent : IsStep .parent
  | name {text : Text} (h : IsFileName text) : IsStep (.name text)

/-- The components of a path, less the root or the `.` in front of them. -/
def steps (path : Text) : List Component := (parts path).filterMap Component.ofPart?

theorem Component.isStep_of_mem_steps {part : Component} (h : part ∈ steps path) : part.IsStep := by
  obtain ⟨piece, hpiece, hof⟩ := List.mem_filterMap.1 h
  rw [Component.ofPart?] at hof
  split_ifs at hof with hempty hparent
  · obtain rfl := Option.some.inj hof
    exact .parent
  · obtain rfl := Option.some.inj hof
    rw [not_or] at hempty
    exact .name ⟨hempty.1, slash_notMem_of_mem_parts hpiece, hempty.2, hparent⟩

theorem components_of_isAbsolute (h : isAbsolute path = true) : components path = .root :: steps path := by
  rw [components, if_pos h]
  rfl

theorem components_of_relative (h : isAbsolute path = false) :
    components path = steps path ∨ components path = .current :: steps path := by
  rw [components, if_neg (ne_true_of_eq_false h)]
  split_ifs
  · exact .inr rfl
  · exact .inl rfl

theorem parts_ne_nil (path : Text) : parts path ≠ [] := splitAll_ne_nil _ path

/-! ### Joined paths -/

theorem join_eq (hbase : base ≠ []) (h : isAbsolute path = false) :
    join base path = if base.getLast? = some '/' then base ++ path else base ++ '/' :: path := by
  have hnot : ¬ (isAbsolute path = true ∨ base = []) := by
    rw [h]
    exact not_or.2 ⟨Bool.false_ne_true, hbase⟩
  rw [join, if_neg hnot]

theorem isAbsolute_join (hbase : base ≠ []) (h : isAbsolute path = false) :
    isAbsolute (join base path) = isAbsolute base := by
  obtain ⟨c, rest, rfl⟩ := List.exists_cons_of_ne_nil hbase
  rw [join_eq hbase h]
  split_ifs <;> rfl

/-- The parts of a joined path are those of the base and of the path, less an empty part at the end of the base. -/
theorem exists_parts_join (hbase : base ≠ []) (h : isAbsolute path = false) :
    ∃ front, front ≠ [] ∧ (parts base = front ∨ parts base = front ++ [[]]) ∧
      parts (join base path) = front ++ parts path := by
  rw [join_eq hbase h]
  split_ifs with hlast
  · obtain ⟨front, rfl⟩ := List.getLast?_eq_some_iff.1 hlast
    refine ⟨parts front, parts_ne_nil front, .inr (parts_append_slash front []), ?_⟩
    rw [List.append_assoc, List.singleton_append, parts_append_slash]
  · exact ⟨parts base, parts_ne_nil base, .inl rfl, parts_append_slash base path⟩

/-- **A relative path adds its steps** to the directory that it is joined to. -/
theorem components_join_of_relative (hbase : base ≠ []) (h : isAbsolute path = false) :
    components (join base path) = components base ++ steps path := by
  obtain ⟨front, hfront, hparts, hjoin⟩ := exists_parts_join hbase h
  have hinner : (parts base).filterMap Component.ofPart? = front.filterMap Component.ofPart? := by
    rcases hparts with hparts | hparts
    · rw [hparts]
    · rw [hparts, List.filterMap_append]
      exact List.append_nil _
  have hhead : (parts base).head? = front.head? := by
    rcases hparts with hparts | hparts
    · rw [hparts]
    · rw [hparts, List.head?_append_of_ne_nil _ hfront]
  rw [components, components, steps, hjoin, isAbsolute_join hbase h, List.filterMap_append, hinner, hhead,
    List.head?_append_of_ne_nil _ hfront]
  split_ifs <;> rfl

theorem steps_of_isFileName (h : IsFileName name) : steps name = [.name name] := by
  rw [steps, parts_of_notMem h.2.1, List.filterMap_cons_some h.ofPart?, List.filterMap_nil]

theorem components_of_isFileName (h : IsFileName name) : components name = [.name name] := by
  rw [components, parts_of_notMem h.2.1, isAbsolute_of_notMem h.2.1, if_neg Bool.false_ne_true, List.head?_cons,
    if_neg fun heq => h.2.2.1 (Option.some.inj heq), List.filterMap_cons_some h.ofPart?, List.filterMap_nil]

/-- **A joined file name is a child of the base.** -/
theorem components_join (h : IsFileName name) (base : Text) :
    components (join base name) = components base ++ [.name name] := by
  by_cases hbase : base = []
  · rw [hbase, join, if_pos (.inr rfl), components_of_isFileName h]
    rfl
  · rw [components_join_of_relative hbase (isAbsolute_of_notMem h.2.1), steps_of_isFileName h]

/-! ### Written paths -/

namespace Component

variable {part : Component}

theorem IsStep.text_ne_nil (h : part.IsStep) : part.text ≠ [] := by
  cases h with
  | parent => decide
  | name h => exact h.1

theorem IsStep.slash_notMem_text (h : part.IsStep) : '/' ∉ part.text := by
  cases h with
  | parent => decide
  | name h => exact h.2.1

theorem IsStep.text_ne_current (h : part.IsStep) : part.text ≠ ".".toList := by
  cases h with
  | parent => decide
  | name h => exact h.2.2.1

theorem IsStep.ofPart?_text (h : part.IsStep) : ofPart? part.text = some part := by
  cases h with
  | parent => decide
  | name h => exact h.ofPart?

end Component

/-- Components that are written without a slash of their own: all but the root. -/
def AreLocal (way : List Component) : Prop := ∀ part ∈ way, part.IsStep ∨ part = .current

/-- Components that a relative path can have: steps, and perhaps a `.` in front of them. -/
def AreRelative (way : List Component) : Prop := AreLocal way ∧ ∀ part ∈ way.tail, part.IsStep

variable {way : List Component}

theorem areLocal_of_isStep (h : ∀ part ∈ way, part.IsStep) : AreLocal way := fun part hpart => .inl (h part hpart)

theorem areRelative_of_isStep (h : ∀ part ∈ way, part.IsStep) : AreRelative way :=
  ⟨areLocal_of_isStep h, fun part hpart => h part (List.mem_of_mem_tail hpart)⟩

theorem areRelative_components (h : isAbsolute path = false) : AreRelative (components path) := by
  have hsteps : ∀ part ∈ steps path, part.IsStep := fun _ => Component.isStep_of_mem_steps
  rcases components_of_relative h with heq | heq <;> rw [heq]
  · exact areRelative_of_isStep hsteps
  · exact ⟨fun part hpart => (List.mem_cons.1 hpart).symm.imp_left (hsteps part), hsteps⟩

/-- What is left of the components of a relative path could be those of one. -/
theorem AreRelative.of_append {front : List Component} (h : AreRelative (front ++ way)) : AreRelative way := by
  cases front with
  | nil => exact h
  | cons part front => exact areRelative_of_isStep fun part hpart => h.2 part (List.mem_append_right front hpart)

theorem AreLocal.slash_notMem_text (h : AreLocal way) {part : Component} (hpart : part ∈ way) : '/' ∉ part.text := by
  rcases h part hpart with hstep | rfl
  · exact hstep.slash_notMem_text
  · decide

/-- The parts of a written path are what is written for its components. -/
theorem parts_write (h : AreLocal way) (hne : way ≠ []) : parts (write way) = way.map Component.text := by
  refine splitAll_joinWith (p := fun c => decide (c = '/')) (by decide) (fun hnil => hne ?_) fun text htext c hc => ?_
  · exact List.map_eq_nil_iff.1 hnil
  · obtain ⟨part, hpart, rfl⟩ := List.mem_map.1 htext
    exact decide_eq_false fun heq => h.slash_notMem_text hpart (heq ▸ hc)

theorem isAbsolute_write (h : AreLocal way) : isAbsolute (write way) = false := by
  cases way with
  | nil => rfl
  | cons part way =>
    have hslash := h.slash_notMem_text List.mem_cons_self
    obtain ⟨c, text, htext⟩ : ∃ c text, part.text = c :: text := by
      rcases h part List.mem_cons_self with hstep | rfl
      · exact List.exists_cons_of_ne_nil hstep.text_ne_nil
      · exact ⟨_, _, rfl⟩
    obtain ⟨rest, hrest⟩ : ∃ rest, write (part :: way) = c :: rest := by
      cases way <;> simp [write, joinWith, htext]
    rw [hrest]
    refine decide_eq_false fun heq => hslash ?_
    rw [htext, ← Option.some.inj heq]
    exact List.mem_cons_self

/-- What is written for a component in front is read back in front. -/
theorem components_write_cons {part : Component} (h : AreLocal (part :: way)) :
    components (write (part :: way)) = part :: (way.map Component.text).filterMap Component.ofPart? := by
  rw [components, isAbsolute_write h, if_neg Bool.false_ne_true, parts_write h (List.cons_ne_nil _ _), List.map_cons,
    List.head?_cons]
  rcases h part List.mem_cons_self with hstep | rfl
  · rw [if_neg fun heq => hstep.text_ne_current (Option.some.inj heq), List.filterMap_cons_some hstep.ofPart?_text]
  · rw [Component.text, if_pos rfl, List.filterMap_cons_none rfl]

theorem filterMap_text_of_isStep (h : ∀ part ∈ way, part.IsStep) :
    (way.map Component.text).filterMap Component.ofPart? = way := by
  induction way with
  | nil => rfl
  | cons part way ih =>
    rw [List.map_cons, List.filterMap_cons_some (h part List.mem_cons_self).ofPart?_text,
      ih fun part hpart => h part (List.mem_cons_of_mem _ hpart)]

theorem steps_write (h : ∀ part ∈ way, part.IsStep) : steps (write way) = way := by
  by_cases hne : way = []
  · rw [hne]
    rfl
  · rw [steps, parts_write (areLocal_of_isStep h) hne, filterMap_text_of_isStep h]

/-- **What is written for components is read back as them.** -/
theorem components_write (h : AreRelative way) : components (write way) = way := by
  cases way with
  | nil => rfl
  | cons part way =>
    rw [components_write_cons h.1]
    exact congrArg (part :: ·) (filterMap_text_of_isStep h.2)

theorem write_ne_nil (h : AreRelative way) (hne : way ≠ []) : write way ≠ [] := fun hnil =>
  hne ((components_write h).symm.trans (congrArg components hnil))

end Path
end TestBench
