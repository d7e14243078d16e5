/-
# Paths shown from an absolute directory

The components of a path and of a directory are compared one by one.

| how the components compare | what is shown |
| --- | --- |
| those of the directory come first, and steps downwards are left | the steps that are left |
| nothing is left, or what is left begins with `..` | the path |
| they differ somewhere, or the path is used up first | the path, as its way leads upwards |

The directory has no `.` among its components if it is absolute, and then there are no other cases
(`leadFrom?_cases`).  So what is shown instead of a path leads to it (`display_of_isAbsolute`).
-/

import TestBench.Proofs.Path

namespace TestBench
namespace Path

/-! ### Ways -/

@[simp] theorem leadFrom?_nil_right (started : Bool) (path : List Component) :
    leadFrom? started path [] = some path := by
  cases path <;> rfl

theorem leadFrom?_nil_left (started : Bool) (base : List Component) :
    leadFrom? started [] base = some (List.replicate base.length .parent) := by
  induction base generalizing started with
  | nil => rfl
  | cons b base ih =>
    rw [leadFrom?, ih]
    rfl

/-- A component in front of both does not matter. -/
theorem leadFrom?_cons_cons_self (part : Component) (path base : List Component) :
    leadFrom? false (part :: path) (part :: base) = leadFrom? false path base := by
  rw [leadFrom?, if_pos ⟨rfl, rfl⟩]

/-- A way from one path to another goes up, or along the second. -/
theorem mem_of_mem_leadFrom? {started : Bool} {path base way : List Component}
    (h : leadFrom? started path base = some way) {part : Component} (hpart : part ∈ way) :
    part = .parent ∨ part ∈ path := by
  fun_induction leadFrom? started path base generalizing way with
  | case1 =>
    obtain rfl := Option.some.inj h
    simp at hpart
  | case2 started a path =>
    obtain rfl := Option.some.inj h
    exact .inr hpart
  | case3 started b base ih =>
    obtain ⟨rest, hrest, rfl⟩ := Option.map_eq_some_iff.1 h
    rcases List.mem_cons.1 hpart with rfl | hpart
    · exact .inl rfl
    · exact ih hrest hpart
  | case4 started a path b base hsame ih =>
    exact (ih h hpart).imp_right (List.mem_cons_of_mem a)
  | case5 started a path base hsame ih =>
    obtain ⟨rest, hrest, rfl⟩ := Option.map_eq_some_iff.1 h
    rcases List.mem_cons.1 hpart with rfl | hpart
    · exact .inr List.mem_cons_self
    · exact (ih hrest hpart).imp_right (List.mem_cons_of_mem a)
  | case6 => simp at h
  | case7 started a path b base =>
    obtain rfl := Option.some.inj h
    rcases List.mem_append.1 hpart with hpart | hpart
    · exact .inl (List.eq_of_mem_replicate hpart)
    · exact .inr hpart

theorem AreLocal.of_leadFrom? {started : Bool} {path base way : List Component} (hpath : AreLocal path)
    (h : leadFrom? started path base = some way) : AreLocal way := by
  intro part hpart
  rcases mem_of_mem_leadFrom? h hpart with rfl | hmem
  · exact .inl .parent
  · exact hpath part hmem

/-- **The way from a directory without a `.`** is what is left of the path; or the directory is not in front of
the path, and the way leads upwards, if there is one. -/
theorem leadFrom?_cases {base : List Component} (hbase : .current ∉ base) (path : List Component) :
    (∃ rest, path = base ++ rest ∧ leadFrom? false path base = some rest) ∨
      (¬∃ rest, path = base ++ rest) ∧
        ∀ way, leadFrom? false path base = some way → way.head? = some .parent := by
  induction path generalizing base with
  | nil =>
    cases base with
    | nil => exact .inl ⟨[], rfl, rfl⟩
    | cons b base =>
      refine .inr ⟨nofun, fun way hway => ?_⟩
      rw [leadFrom?_nil_left] at hway
      rw [← Option.some.inj hway]
      rfl
  | cons a path ih =>
    cases base with
    | nil => exact .inl ⟨a :: path, rfl, rfl⟩
    | cons b base =>
      rw [List.mem_cons, not_or] at hbase
      by_cases hsame : a = b
      · subst hsame
        rw [leadFrom?_cons_cons_self]
        simpa using ih hbase.2
      · refine .inr ⟨?_, fun way hway => ?_⟩
        · rintro ⟨rest, heq⟩
          exact hsame (List.cons.inj heq).1
        · rw [leadFrom?, if_neg fun h => hsame h.2, if_neg (Ne.symm hbase.1)] at hway
          split_ifs at hway
          rw [← Option.some.inj hway]
          rfl

/-! ### What is shown -/

variable {path base : Text}

/-- A way is shown unless it is empty or leads upwards. -/
theorem display_of_leadFrom? (hsame : isAbsolute path = isAbsolute base) {way : List Component}
    (hway : leadFrom? false (components path) (components base) = some way) (hlocal : AreLocal way) :
    display path (some base) = if way = [] ∨ way.head? = some .parent then path else write way := by
  have hshown : relative? path base = some (write way) := by
    rw [relative?, if_pos hsame, hway, Option.map_some]
  have hif : (write way = [] ∨ (components (write way)).head? = some .parent) ↔
      (way = [] ∨ way.head? = some .parent) := by
    cases way with
    | nil => exact iff_of_true (.inl rfl) (.inl rfl)
    | cons part way =>
      have hne : write (part :: way) ≠ [] := fun hnil => by
        have hcomponents := components_write_cons hlocal
        rw [hnil] at hcomponents
        exact nomatch hcomponents
      rw [components_write_cons hlocal, or_iff_right hne, or_iff_right (List.cons_ne_nil _ _)]
      rfl
  rw [display, Option.bind_some, hshown]
  exact if_congr hif rfl rfl

/-- Without a way, or with one that leads upwards, the path itself is shown. -/
theorem display_of_upwards (hsame : isAbsolute path = isAbsolute base)
    (hlocal : ∀ way, leadFrom? false (components path) (components base) = some way → AreLocal way)
    (hup : ∀ way, leadFrom? false (components path) (components base) = some way → way.head? = some .parent) :
    display path (some base) = path := by
  cases hway : leadFrom? false (components path) (components base) with
  | none => rw [display, Option.bind_some, relative?, if_pos hsame, hway, Option.map_none]
  | some way => rw [display_of_leadFrom? hsame hway (hlocal way hway), if_pos (.inr (hup way hway))]

/-- Steps that lead from the directory down to the path: what is left of its components, if the first one is a
name. -/
def LeadsDown (base path : Text) (rest : List Component) : Prop :=
  components path = components base ++ rest ∧ rest ≠ [] ∧ rest.head? ≠ some .parent

theorem current_notMem_steps : .current ∉ steps path := fun h => nomatch Component.isStep_of_mem_steps h

/-- No way leads from the root down to a relative path. -/
theorem not_leadsDown_of_relative (hbase : isAbsolute base = true) (hpath : isAbsolute path = false) :
    ¬∃ rest, LeadsDown base path rest := by
  rintro ⟨rest, heq, -⟩
  rw [components_of_isAbsolute hbase] at heq
  rcases (areRelative_components hpath).1 .root (heq ▸ List.mem_cons_self) with h | h
  · exact nomatch h
  · exact nomatch h

/-- What an absolute path is shown as from an absolute directory. -/
theorem display_cases_of_isAbsolute (hbase : isAbsolute base = true) (hpath : isAbsolute path = true) :
    (∃ rest, LeadsDown base path rest ∧ (∀ part ∈ rest, part.IsStep) ∧ display path (some base) = write rest) ∨
      (¬∃ rest, LeadsDown base path rest) ∧ display path (some base) = path := by
  have hsame : isAbsolute path = isAbsolute base := hpath.trans hbase.symm
  have hsteps : ∀ part ∈ steps path, part.IsStep := fun _ => Component.isStep_of_mem_steps
  -- Both begin with the root, which does not matter.
  have hlead : leadFrom? false (components path) (components base)
      = leadFrom? false (steps path) (steps base) := by
    rw [components_of_isAbsolute hpath, components_of_isAbsolute hbase, leadFrom?_cons_cons_self]
  have hleft (rest : List Component) :
      components path = components base ++ rest ↔ steps path = steps base ++ rest := by
    rw [components_of_isAbsolute hpath, components_of_isAbsolute hbase, List.cons_append, List.cons.injEq,
      and_iff_right rfl]
  rcases leadFrom?_cases current_notMem_steps (steps path) with ⟨rest, hrest, hway⟩ | ⟨hnot, hup⟩
  · have hleftSteps : ∀ part ∈ rest, part.IsStep := fun part hpart =>
      hsteps part (hrest ▸ List.mem_append_right _ hpart)
    have hdisplay := display_of_leadFrom? hsame (hlead.trans hway) (areLocal_of_isStep hleftSteps)
    by_cases hshown : rest = [] ∨ rest.head? = some .parent
    · rw [if_pos hshown] at hdisplay
      refine .inr ⟨?_, hdisplay⟩
      rintro ⟨rest', heq, hne⟩
      obtain rfl := List.append_cancel_left (hrest.symm.trans ((hleft rest').1 heq))
      exact (not_or.2 hne) hshown
    · rw [if_neg hshown] at hdisplay
      exact .inl ⟨rest, ⟨(hleft rest).2 hrest, not_or.1 hshown⟩, hleftSteps, hdisplay⟩
  · refine .inr ⟨?_, display_of_upwards hsame (fun way hway => ?_) fun way hway => hup way (hlead.symm.trans hway)⟩
    · rintro ⟨rest, heq, -⟩
      exact hnot ⟨rest, (hleft rest).1 heq⟩
    · exact (areLocal_of_isStep hsteps).of_leadFrom? (hlead.symm.trans hway)

/-- What a path is shown as from an absolute directory. -/
theorem display_cases (hbase : isAbsolute base = true) (path : Text) :
    (∃ rest, LeadsDown base path rest ∧ (∀ part ∈ rest, part.IsStep) ∧ display path (some base) = write rest) ∨
      (¬∃ rest, LeadsDown base path rest) ∧ display path (some base) = path := by
  cases hpath : isAbsolute path with
  | false =>
    refine .inr ⟨not_leadsDown_of_relative hbase hpath, ?_⟩
    rw [display, Option.bind_some, relative?, hbase, hpath, if_neg Bool.false_ne_true, if_neg Bool.false_ne_true]
  | true => exact display_cases_of_isAbsolute hbase hpath

/-- There is one way down. -/
theorem LeadsDown.unique {rest rest' : List Component} (h : LeadsDown base path rest) (h' : LeadsDown base path rest') :
    rest = rest' :=
  List.append_cancel_left (h.1.symm.trans h'.1)

/-- The way down is shown. -/
theorem LeadsDown.display_eq (hbase : isAbsolute base = true) {rest : List Component} (h : LeadsDown base path rest) :
    (∀ part ∈ rest, part.IsStep) ∧ display path (some base) = write rest := by
  rcases display_cases hbase path with ⟨rest', hdown, hsteps, hdisplay⟩ | ⟨hnot, -⟩
  · obtain rfl := hdown.unique h
    exact ⟨hsteps, hdisplay⟩
  · exact absurd ⟨rest, h⟩ hnot

/-- Nothing but a way down is shown instead of a path. -/
theorem exists_leadsDown_of_ne (hbase : isAbsolute base = true) (hne : display path (some base) ≠ path) :
    ∃ rest, LeadsDown base path rest := by
  rcases display_cases hbase path with ⟨rest, hdown, -⟩ | ⟨-, hdisplay⟩
  · exact ⟨rest, hdown⟩
  · exact absurd hdisplay hne

/-- **What is shown from an absolute directory.**  If the components of the directory are in front of those of the
path, and what is left is there and does not begin with `..`, then what is left is shown, with a slash between each
two; otherwise the path is shown as it is.  So what is shown instead of a path is not empty, relative, does not begin
with `..`, has together with the directory the components of the path, and is not shown instead of any other. -/
theorem display_of_isAbsolute (hbase : isAbsolute base = true) (path : Text) :
    (∀ rest, LeadsDown base path rest →
      display path (some base) = joinWith "/".toList (rest.map Component.text) ∧
        display path (some base) ≠ path) ∧
    ((¬∃ rest, LeadsDown base path rest) → display path (some base) = path) ∧
    ∀ shown, display path (some base) = shown → shown ≠ path →
      shown ≠ [] ∧ isAbsolute shown = false ∧ (components shown).head? ≠ some .parent ∧
        components (join base shown) = components path ∧
        ∀ other, display other (some base) = shown → shown ≠ other → components other = components path := by
  refine ⟨fun rest hdown => ?_, fun hnot => ?_, ?_⟩
  · obtain ⟨hsteps, hdisplay⟩ := hdown.display_eq hbase
    refine ⟨hdisplay, fun heq => not_leadsDown_of_relative hbase ?_ ⟨rest, hdown⟩⟩
    rw [← heq, hdisplay, isAbsolute_write (areLocal_of_isStep hsteps)]
  · rcases display_cases hbase path with ⟨rest, hdown, -⟩ | ⟨-, hdisplay⟩
    · exact absurd ⟨rest, hdown⟩ hnot
    · exact hdisplay
  · rintro shown rfl hne
    obtain ⟨rest, hdown⟩ := exists_leadsDown_of_ne hbase hne
    obtain ⟨hsteps, hdisplay⟩ := hdown.display_eq hbase
    have hrelative := areRelative_of_isStep hsteps
    have habsolute := isAbsolute_write hrelative.1
    have hbaseNe : base ≠ [] := fun hnil => absurd (hnil ▸ hbase) (by decide)
    rw [hdisplay]
    refine ⟨write_ne_nil hrelative hdown.2.1, habsolute, ?_, ?_, fun other hother hne' => ?_⟩
    · rw [components_write hrelative]
      exact hdown.2.2
    · rw [components_join_of_relative hbaseNe habsolute, steps_write hsteps]
      exact hdown.1.symm
    · obtain ⟨rest', hdown'⟩ := exists_leadsDown_of_ne hbase (hother ▸ hne')
      obtain ⟨hsteps', hdisplay'⟩ := hdown'.display_eq hbase
      have hwritten := hdisplay'.symm.trans hother
      obtain rfl : rest' = rest := by
        rw [← components_write (areRelative_of_isStep hsteps'), hwritten, components_write hrelative]
      exact hdown'.1.trans hdown.1.symm

/-- Two spellings of a path, with a parent inside, are shown alike from a directory with a `.` inside. -/
theorem display_of_isAbsolute_respelt :
    isAbsolute "//w/./b/".toList = true ∧
      display "/w//b/a/../c".toList (some "//w/./b/".toList) = "a/../c".toList ∧
      components "/w/b/./a/..//c/".toList = components "/w//b/a/../c".toList := by
  have hbase : isAbsolute "//w/./b/".toList = true := by decide
  obtain ⟨hshown, -, hback⟩ := display_of_isAbsolute hbase "/w//b/a/../c".toList
  have hdown : LeadsDown "//w/./b/".toList "/w//b/a/../c".toList
      [.name "a".toList, .parent, .name "c".toList] := ⟨by decide, by decide, by decide⟩
  obtain ⟨hdisplay, hne⟩ := hshown _ hdown
  exact ⟨hbase, hdisplay, (hback _ rfl hne).2.2.2.2 _ (by decide) (by decide)⟩

end Path
end TestBench
