/-
# Paths shown from a relative directory

A path is resolved by its text alone if each `.` is dropped and each `..` takes back the component before it
(`resolve`).  What is shown instead of a path should lead to it from the directory, and a path that does not lie under
the directory should be shown as it is (`IsShownFaithfully`).

This holds of relative paths and relative directories, but for one kind of pairs (`Strays`): the directory is written
with a `./` in front, and the path is not.

| the directory | the path | what is shown |
| --- | --- | --- |
| `./x` | `a/b` | `a/../b` |
| `./x/y` | `a` | `a/../..` |

The first component of the path is taken for a way on from the `.`, and then the way back from the rest of the
directory is put behind it, where it takes back the wrong components: what is shown leads to the path with the first
name of the directory in the place of its own (`display_of_relative`).
-/

import TestBench.Proofs.Path.Display

namespace TestBench
namespace Path

/-! ### Resolving by text -/

/-- The components behind which one more component leads, last first: `.` stays, and `..` takes back the name before
it.  The root is above itself. -/
def Component.push (back : List Component) (part : Component) : List Component :=
  match part, back with
  | .current, back => back
  | .parent, .name _ :: back => back
  | .parent, .root :: back => .root :: back
  | part, back => part :: back

/-- Components resolved by their text. -/
def resolve (way : List Component) : List Component := (way.foldl Component.push []).reverse

example : resolve (components "../a/./b/../../c".toList) = [.parent, .name "c".toList] := by decide

variable {base path : Text}

/-- A `.` in front does not matter. -/
theorem foldl_push_components (h : isAbsolute path = false) (back : List Component) :
    (components path).foldl Component.push back = (steps path).foldl Component.push back := by
  rcases components_of_relative h with heq | heq <;> rw [heq]
  rfl

/-- A relative path that is joined to a directory is resolved behind it. -/
theorem resolve_join (h : isAbsolute path = false) (base : Text) :
    resolve (components (join base path)) = resolve (components base ++ components path) := by
  by_cases hbase : base = []
  · rw [hbase, join, if_pos (.inr rfl)]
    rfl
  · rw [components_join_of_relative hbase h, resolve, resolve, List.foldl_append, List.foldl_append,
      foldl_push_components h]

/-- Names, and as many parents behind them, lead nowhere else. -/
theorem foldl_push_names (names : List Text) (back : List Component) :
    (names.map Component.name ++ List.replicate names.length Component.parent).foldl Component.push back = back := by
  induction names generalizing back with
  | nil => rfl
  | cons name names ih =>
    rw [List.map_cons, List.length_cons, List.replicate_succ', List.cons_append, ← List.append_assoc,
      List.foldl_cons, List.foldl_append, ih]
    rfl

/-! ### Pairs that stray -/

/-- The path lies under the directory: its components begin with those of the directory, whether or not one of the two
is written with a `.` in front, and there are more. -/
def LiesUnder (base path : Text) : Prop :=
  ∃ rest, rest ≠ [] ∧ (components path = components base ++ rest ∨ steps path = steps base ++ rest)

/-- What is shown instead of the path leads to it from the directory, and a path that does not lie under the directory
is shown as it is. -/
structure IsShownFaithfully (base path : Text) : Prop where
  leadsBack : display path (some base) ≠ path →
    resolve (components (join base (display path (some base)))) = resolve (components path)
  unchanged : ¬LiesUnder base path → display path (some base) = path

/-- The directory is written with a `.` and more behind it, and the path begins with a name at once.  If something
stands behind both, then it is no `..` in the directory. -/
structure Strays (base path : Text) (first : Text) (front rest : List Component) : Prop where
  base_eq : components base = .current :: front
  path_eq : components path = .name first :: rest
  front_ne : front ≠ []
  isOpen : rest = [] ∨ front.head? ≠ some .parent

/-- What is shown of a path that strays: the way back from the directory stands behind the first name. -/
def strayWay (first : Text) (front rest : List Component) : List Component :=
  .name first :: (List.replicate front.length .parent ++ rest)

/-- The way from a directory with a `.` in front to a path that begins with a name. -/
theorem leadFrom?_current {front : List Component} (hfront : .current ∉ front) (first : Text) (rest : List Component) :
    leadFrom? false (.name first :: rest) (.current :: front)
      = if rest = [] ∨ front.head? ≠ some .parent then some (strayWay first front rest) else none := by
  have hstart : leadFrom? false (.name first :: rest) (.current :: front)
      = (leadFrom? true rest front).map (.name first :: ·) := by
    rw [leadFrom?, if_neg (by simp), if_pos rfl]
  rw [hstart, strayWay]
  cases rest with
  | nil => rw [leadFrom?_nil_left, if_pos (.inl rfl), List.append_nil, Option.map_some]
  | cons a rest =>
    cases front with
    | nil => rw [leadFrom?_nil_right, if_pos (.inr (by simp))]; rfl
    | cons b front =>
      have hb : b ≠ .current := fun h => hfront (h ▸ List.mem_cons_self)
      rw [leadFrom?, if_neg (by simp), if_neg hb, List.head?_cons]
      by_cases hparent : b = .parent
      · rw [if_pos hparent, if_neg (by simp [hparent])]
        rfl
      · rw [if_neg hparent, if_pos (.inr fun h => hparent (Option.some.inj h))]
        rfl

theorem current_notMem_of_components {front : List Component} (hbase : isAbsolute base = false)
    (h : components base = .current :: front) : .current ∉ front := fun hmem =>
  nomatch (areRelative_components hbase).2 .current (h ▸ hmem)

theorem steps_of_components_current {front : List Component} (hbase : isAbsolute base = false)
    (h : components base = .current :: front) : steps base = front := by
  rcases components_of_relative hbase with heq | heq <;> rw [heq] at h
  · exact absurd (h ▸ List.mem_cons_self) (@current_notMem_steps base)
  · exact (List.cons.inj h).2

theorem steps_of_components_name {first : Text} {rest : List Component} (hpath : isAbsolute path = false)
    (h : components path = .name first :: rest) : steps path = .name first :: rest := by
  rcases components_of_relative hpath with heq | heq <;> rw [heq] at h
  · exact h
  · exact nomatch (List.cons.inj h).1

/-- If the way is what is left of the path, or leads upwards, then what is left is shown, or the path is. -/
theorem display_of_left_or_upwards (hsame : isAbsolute path = isAbsolute base) (hlocal : AreLocal (components path))
    (h : (∃ rest, components path = components base ++ rest ∧
        leadFrom? false (components path) (components base) = some rest) ∨
      ∀ way, leadFrom? false (components path) (components base) = some way → way.head? = some .parent) :
    (∃ rest, components path = components base ++ rest ∧ rest ≠ [] ∧ display path (some base) = write rest) ∨
      display path (some base) = path := by
  rcases h with ⟨rest, hrest, hway⟩ | hup
  · have hdisplay := display_of_leadFrom? hsame hway (hlocal.of_leadFrom? hway)
    split_ifs at hdisplay with hshown
    · exact .inr hdisplay
    · exact .inl ⟨rest, hrest, (not_or.1 hshown).1, hdisplay⟩
  · exact .inr (display_of_upwards hsame (fun way hway => hlocal.of_leadFrom? hway) hup)

/-- What a relative path is shown as from a relative directory. -/
theorem display_cases_of_relative (hbase : isAbsolute base = false) (hpath : isAbsolute path = false) :
    ((∃ rest, components path = components base ++ rest ∧ rest ≠ [] ∧ display path (some base) = write rest) ∨
      display path (some base) = path) ∨
      ∃ first front rest, components base = .current :: front ∧ components path = .name first :: rest ∧
        (rest = [] ∨ front.head? ≠ some .parent) := by
  have hsame : isAbsolute path = isAbsolute base := hpath.trans hbase.symm
  have hlocal := (areRelative_components hpath).1
  rcases components_of_relative hbase with heq | heq
  · refine .inl (display_of_left_or_upwards hsame hlocal ?_)
    rw [heq]
    exact (leadFrom?_cases current_notMem_steps (components path)).imp_right And.right
  · cases hparts : components path with
    | nil =>
      refine .inl (hparts ▸ display_of_left_or_upwards hsame hlocal (.inr fun way hway => ?_))
      rw [hparts, heq, leadFrom?_nil_left] at hway
      rw [← Option.some.inj hway]
      rfl
    | cons part rest =>
      cases part with
      | root => exact absurd (hlocal .root (hparts ▸ List.mem_cons_self)) (by rintro (h | h) <;> exact nomatch h)
      | current =>
        refine .inl (hparts ▸ display_of_left_or_upwards hsame hlocal ?_)
        rw [hparts, heq, leadFrom?_cons_cons_self]
        rcases leadFrom?_cases current_notMem_steps rest with ⟨left, hleft, hway⟩ | ⟨-, hup⟩
        · exact .inl ⟨left, congrArg (.current :: ·) hleft, hway⟩
        · exact .inr hup
      | parent =>
        refine .inl (hparts ▸ display_of_left_or_upwards hsame hlocal (.inr fun way hway => ?_))
        rw [hparts, heq, leadFrom?, if_neg (by simp), if_pos rfl] at hway
        obtain ⟨left, -, rfl⟩ := Option.map_eq_some_iff.1 hway
        rfl
      | name first =>
        by_cases hopen : rest = [] ∨ (steps base).head? ≠ some .parent
        · exact .inr ⟨first, steps base, rest, heq, rfl, hopen⟩
        · refine .inl (hparts ▸ display_of_left_or_upwards hsame hlocal (.inr fun way hway => ?_))
          rw [hparts, heq, leadFrom?_current current_notMem_steps, if_neg hopen] at hway
          exact absurd hway (by simp)

/-- The way is shown, whether or not the directory has more than the `.` in front. -/
theorem display_of_components_eq (hbase : isAbsolute base = false) (hpath : isAbsolute path = false) {first : Text}
    {front rest : List Component} (hfront : components base = .current :: front)
    (hrest : components path = .name first :: rest) (hopen : rest = [] ∨ front.head? ≠ some .parent) :
    AreRelative (strayWay first front rest) ∧
      display path (some base) = write (strayWay first front rest) := by
  have hcurrent := current_notMem_of_components hbase hfront
  have hrelative := areRelative_components hpath
  have hway : leadFrom? false (components path) (components base) = some (strayWay first front rest) := by
    rw [hfront, hrest, leadFrom?_current hcurrent, if_pos hopen]
  have hlocal := hrelative.1.of_leadFrom? hway
  refine ⟨⟨hlocal, fun part hpart => ?_⟩, ?_⟩
  · rcases List.mem_append.1 hpart with hpart | hpart
    · exact List.eq_of_mem_replicate hpart ▸ .parent
    · exact hrelative.2 part (hrest ▸ hpart)
  · rw [display_of_leadFrom? (hpath.trans hbase.symm) hway hlocal, if_neg]
    simp [strayWay]

namespace Strays

variable {first : Text} {front rest : List Component}

theorem display_eq (hbase : isAbsolute base = false) (hpath : isAbsolute path = false)
    (h : Strays base path first front rest) :
    AreRelative (strayWay first front rest) ∧ display path (some base) = write (strayWay first front rest) :=
  display_of_components_eq hbase hpath h.base_eq h.path_eq h.isOpen

/-- The way is longer than the path. -/
theorem display_ne (hbase : isAbsolute base = false) (hpath : isAbsolute path = false)
    (h : Strays base path first front rest) : display path (some base) ≠ path := by
  obtain ⟨hrelative, hdisplay⟩ := h.display_eq hbase hpath
  intro heq
  have hlength : (strayWay first front rest).length = (components path).length := by
    rw [← components_write hrelative, ← hdisplay, heq]
  have hfront := List.length_pos_iff.2 h.front_ne
  rw [h.path_eq, strayWay, List.length_cons, List.length_append, List.length_replicate, List.length_cons] at hlength
  omega

/-- Where the way leads from the directory. -/
theorem resolve_display (hbase : isAbsolute base = false) (hpath : isAbsolute path = false)
    (h : Strays base path first front rest) :
    resolve (components (join base (display path (some base)))) = resolve (front ++ strayWay first front rest) := by
  obtain ⟨hrelative, hdisplay⟩ := h.display_eq hbase hpath
  rw [hdisplay, resolve_join (isAbsolute_write hrelative.1), components_write hrelative, h.base_eq]
  rfl

/-- **If the directory has names only,** then the way leads to the path with the first of them in front. -/
theorem resolve_strayWay (first other : Text) (others : List Text) (rest : List Component) :
    resolve ((other :: others).map Component.name ++ strayWay first ((other :: others).map Component.name) rest)
      = resolve (.name other :: rest) := by
  -- All other names, and the one of the path behind them, are taken back.
  have hclimb := foldl_push_names (others ++ [first]) [.name other]
  rw [List.map_append, List.length_append, List.length_singleton, List.append_assoc] at hclimb
  have hway : (other :: others).map Component.name ++ strayWay first ((other :: others).map Component.name) rest
      = .name other :: (others.map Component.name
          ++ ([first].map Component.name ++ List.replicate (others.length + 1) Component.parent)) ++ rest := by
    simp [strayWay]
  rw [hway, resolve, List.foldl_append, List.foldl_cons]
  exact congrArg (fun back => (List.foldl Component.push back rest).reverse) hclimb

end Strays

/-- The directory is written with a `.` alone in front, and the path begins with a name. -/
theorem isShownFaithfully_of_current (hbase : isAbsolute base = false) (hpath : isAbsolute path = false)
    {first : Text} {rest : List Component} (hcurrent : components base = [.current])
    (hrest : components path = .name first :: rest) : IsShownFaithfully base path := by
  obtain ⟨hrelative, hdisplay⟩ := display_of_components_eq hbase hpath hcurrent hrest (.inr nofun)
  have hway : strayWay first [] rest = components path := hrest.symm
  rw [hway] at hrelative hdisplay
  have hunder : LiesUnder base path := by
    refine ⟨steps path, ?_, .inr ?_⟩
    · rw [steps_of_components_name hpath hrest]
      exact List.cons_ne_nil _ _
    · rw [steps_of_components_current hbase hcurrent]
      rfl
  refine ⟨fun _ => ?_, fun hnot => absurd hunder hnot⟩
  rw [hdisplay, resolve_join (isAbsolute_write hrelative.1), components_write hrelative, hcurrent]
  rfl

/-- **All pairs are shown faithfully that do not stray.** -/
theorem isShownFaithfully_of_not_strays (hbase : isAbsolute base = false) (hpath : isAbsolute path = false)
    (h : ¬∃ first front rest, Strays base path first front rest) : IsShownFaithfully base path := by
  rcases display_cases_of_relative hbase hpath with (⟨rest, hrest, hne, hdisplay⟩ | hdisplay) | hopen
  · have hrelative : AreRelative rest := AreRelative.of_append (hrest ▸ areRelative_components hpath)
    refine ⟨fun _ => ?_, fun hnot => absurd ⟨rest, hne, .inl hrest⟩ hnot⟩
    rw [hdisplay, resolve_join (isAbsolute_write hrelative.1), components_write hrelative, ← hrest]
  · exact ⟨fun hne => absurd hdisplay hne, fun _ => hdisplay⟩
  · obtain ⟨first, front, rest, hfront, hrest, hopen⟩ := hopen
    by_cases hne : front = []
    · exact isShownFaithfully_of_current hbase hpath (hne ▸ hfront) hrest
    · exact absurd ⟨first, front, rest, hfront, hrest, hne, hopen⟩ h

/-- **What is shown from a relative directory.**  A relative path is shown faithfully unless it strays.  If it does,
then the way back from the directory is shown behind its first name; this is not the path, and leads from the directory
where the directory and this way together lead.  So the path is shown faithfully nevertheless iff it lies under the
directory and they lead to it; if the directory has names only, then they lead to the path with the first of these
names in front, and the path is shown faithfully iff it lies under the directory. -/
theorem display_of_relative (hbase : isAbsolute base = false) (hpath : isAbsolute path = false) :
    ((¬∃ first front rest, Strays base path first front rest) → IsShownFaithfully base path) ∧
    ∀ first front rest, Strays base path first front rest →
      display path (some base)
          = write (.name first :: (List.replicate front.length .parent ++ rest)) ∧
        display path (some base) ≠ path ∧
        (IsShownFaithfully base path ↔
          LiesUnder base path ∧
            resolve (front ++ .name first :: (List.replicate front.length .parent ++ rest))
              = resolve (components path)) ∧
        ∀ other others, front = (other :: others).map Component.name →
          resolve (components (join base (display path (some base)))) = resolve (.name other :: rest) ∧
            (IsShownFaithfully base path ↔ LiesUnder base path) := by
  refine ⟨isShownFaithfully_of_not_strays hbase hpath, fun first front rest h => ?_⟩
  have hne := h.display_ne hbase hpath
  have hresolve := h.resolve_display hbase hpath
  have hiff : IsShownFaithfully base path ↔
      LiesUnder base path ∧ resolve (front ++ strayWay first front rest) = resolve (components path) := by
    rw [← hresolve]
    constructor
    · intro hfaithful
      exact ⟨by_contra fun hnot => hne (hfaithful.unchanged hnot), hfaithful.leadsBack hne⟩
    · rintro ⟨hunder, hback⟩
      exact ⟨fun _ => hback, fun hnot => absurd hunder hnot⟩
  refine ⟨(h.display_eq hbase hpath).2, hne, hiff, ?_⟩
  rintro other others rfl
  rw [Strays.resolve_strayWay] at hresolve hiff
  refine ⟨hresolve, hiff.trans (and_iff_left_of_imp fun hunder => ?_)⟩
  -- A path under the directory begins with the directory's first name.
  obtain ⟨left, -, heq | heq⟩ := hunder
  · rw [h.base_eq, h.path_eq] at heq
    exact nomatch (List.cons.inj heq).1
  · rw [steps_of_components_name hpath h.path_eq, steps_of_components_current hbase h.base_eq] at heq
    rw [h.path_eq, (List.cons.inj heq).1]

/-- A path that does not lie under the directory leads there from it, by a detour. -/
theorem display_of_relative_detour :
    isAbsolute "./src/lib".toList = false ∧ isAbsolute "src/main.c".toList = false ∧
      display "src/main.c".toList (some "./src/lib".toList) = "src/../../main.c".toList ∧
      resolve (components (join "./src/lib".toList "src/../../main.c".toList)) = components "src/main.c".toList ∧
      ¬IsShownFaithfully "./src/lib".toList "src/main.c".toList := by
  have hbase : isAbsolute "./src/lib".toList = false := by decide
  have hpath : isAbsolute "src/main.c".toList = false := by decide
  have hstrays : Strays "./src/lib".toList "src/main.c".toList "src".toList
      [.name "src".toList, .name "lib".toList] [.name "main.c".toList] :=
    ⟨by decide, by decide, by decide, by decide⟩
  obtain ⟨hdisplay, -, -, hnames⟩ := (display_of_relative hbase hpath).2 _ _ _ hstrays
  obtain ⟨hresolve, hiff⟩ := hnames "src".toList ["lib".toList] rfl
  have hshown : display "src/main.c".toList (some "./src/lib".toList) = "src/../../main.c".toList := hdisplay
  refine ⟨hbase, hpath, hshown, ?_, fun hfaithful => ?_⟩
  · rw [hshown] at hresolve
    exact hresolve
  · have hcomponents : ¬components "./src/lib".toList <+: components "src/main.c".toList := by decide
    have hsteps : ¬steps "./src/lib".toList <+: steps "src/main.c".toList := by decide
    obtain ⟨left, -, heq | heq⟩ := hiff.1 hfaithful
    · exact hcomponents ⟨left, heq.symm⟩
    · exact hsteps ⟨left, heq.symm⟩

/-- **Not every pair is shown faithfully.**  From `./x`, the path `a/b` is shown as `a/../b`, which leads to `x/b`. -/
theorem not_isShownFaithfully :
    ¬∀ base path, isAbsolute base = false → isAbsolute path = false → IsShownFaithfully base path := by
  intro h
  have hfaithful := h "./x".toList "a/b".toList (by decide) (by decide)
  exact absurd (hfaithful.leadsBack (by decide)) (by decide)

end Path
end TestBench
