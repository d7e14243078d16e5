/-
# Variants and their directories

The names of the entries of a directory declare variants, and each variant has a directory for its binaries.

| entry | declares |
| --- | --- |
| `tests_san_` and a name without dots that is not empty | this name |
| the same, a dot, and anything | the same |
| anything else | nothing |

Several entries may declare one variant, but as a set the variants depend on nothing but the names that are
text: neither on their order nor on the others (`declared_eq_of_mem_iff`).  The way back is exact: the directory of
a variant is called by the first row, so that it declares the variant again (`declaredBy?_nameStart`), and a
directory that holds just the directories of some variants declares just these (`declared_trees`).
-/

import Mathlib
import TestBench.Proofs.FileTree.WellFormed
import TestBench.Proofs.Path
import TestBench.Proofs.Text.Basic
import TestBench.Proofs.Text.Order
import TestBench.Sanitizer.Declared

namespace TestBench
namespace Sanitizer

open Utf8 (encode IsText)

variable {name variant : Text} {names names' : List Bytes}

/-! ### What names declare -/

/-- What a variant may be called. -/
def IsVariant (variant : Text) : Prop := variant ≠ [] ∧ '.' ∉ variant

/-- **A name declares a variant** if it is that of the variant's directory, or this with an extension. -/
theorem declaredBy?_eq_some_iff :
    declaredBy? name = some variant ↔
      IsVariant variant ∧ (name = nameStart ++ variant ∨ ∃ x, name = nameStart ++ variant ++ '.' :: x) := by
  have hrest : declaredBy? name = some variant ↔
      variant ≠ [] ∧ ∃ rest, dropHead? nameStart name = some rest ∧ rest.takeWhile (· != '.') = variant := by
    rw [declaredBy?]
    cases dropHead? nameStart name with
    | none => simp
    | some rest =>
      simp only [Option.some.injEq, exists_eq_left']
      split_ifs with hempty
      · exact ⟨nofun, fun ⟨hne, heq⟩ => absurd (heq.symm.trans hempty) hne⟩
      · rw [Option.some.injEq]
        exact ⟨fun heq => ⟨heq ▸ hempty, heq⟩, And.right⟩
  rw [hrest, IsVariant, and_assoc]
  refine and_congr_right fun _ => ?_
  simp only [dropHead?_eq_some_iff, takeWhile_ne_eq_iff, List.append_assoc]
  constructor
  · rintro ⟨_, rfl, hdots, rfl | ⟨x, rfl⟩⟩
    · exact ⟨hdots, .inl rfl⟩
    · exact ⟨hdots, .inr ⟨x, rfl⟩⟩
  · rintro ⟨hdots, rfl | ⟨x, rfl⟩⟩
    · exact ⟨_, rfl, hdots, .inl rfl⟩
    · exact ⟨_, rfl, hdots, .inr ⟨x, rfl⟩⟩

/-- The directory of a variant declares the variant. -/
theorem declaredBy?_nameStart (h : IsVariant variant) : declaredBy? (nameStart ++ variant) = some variant :=
  declaredBy?_eq_some_iff.2 ⟨h, .inl rfl⟩

/-! ### What directories declare -/

theorem mem_declared_iff_declaredBy? :
    variant ∈ declared names ↔ ∃ name, encode name ∈ names ∧ declaredBy? name = some variant := by
  simp only [declared, Text.mem_sortedSet, List.mem_filterMap, Option.bind_eq_some_iff, Utf8.toText?_eq_some_iff]
  constructor
  · rintro ⟨_, hmem, name, rfl, hname⟩
    exact ⟨name, hmem, hname⟩
  · rintro ⟨name, hmem, hname⟩
    exact ⟨_, hmem, name, rfl, hname⟩

/-- **The variants of a directory** are those that have an entry. -/
theorem mem_declared_iff :
    variant ∈ declared names ↔ IsVariant variant ∧ ∃ name ∈ names,
      name = encode (nameStart ++ variant) ∨ ∃ x, name = encode (nameStart ++ variant ++ '.' :: x) := by
  simp only [mem_declared_iff_declaredBy?, declaredBy?_eq_some_iff]
  constructor
  · rintro ⟨_, hmem, hvariant, rfl | ⟨x, rfl⟩⟩
    · exact ⟨hvariant, _, hmem, .inl rfl⟩
    · exact ⟨hvariant, _, hmem, .inr ⟨x, rfl⟩⟩
  · rintro ⟨hvariant, _, hmem, rfl | ⟨x, rfl⟩⟩
    · exact ⟨_, hmem, hvariant, .inl rfl⟩
    · exact ⟨_, hmem, hvariant, .inr ⟨x, rfl⟩⟩

theorem ascends_declared (names : List Bytes) : Text.Ascends (declared names) := Text.ascends_sortedSet _

/-- **Only the texts among the names count**, and neither their order nor how often they occur. -/
theorem declared_eq_of_mem_iff (h : ∀ text, encode text ∈ names' ↔ encode text ∈ names) :
    declared names' = declared names := by
  refine (ascends_declared names').eq_of_mem_iff (ascends_declared names) fun variant => ?_
  simp only [mem_declared_iff_declaredBy?, h]

/-- There is a warning for each name that is not text. -/
theorem exists_warnings (dir : Text) (names : List Bytes) :
    ∃ odd : List Bytes, odd.Sublist names ∧ (∀ name ∈ names, name ∈ odd ↔ ¬ IsText name) ∧
      warnings dir names = odd.map (notTextEvent dir) := by
  refine ⟨_, List.filter_sublist, fun name hname => ?_, rfl⟩
  rw [List.mem_filter, Option.isNone_iff_eq_none, Option.eq_none_iff_forall_ne_some, IsText, not_exists]
  simp only [ne_eq, Utf8.toText?_eq_some_iff, hname, true_and]

/-! ### The directories of variants -/

theorem slash_notMem_of_isName {text : Text} (h : FileTree.IsName (encode text)) : '/' ∉ text := fun hmem =>
  h.2.1 (List.mem_flatMap.2 ⟨'/', hmem, by decide⟩)

/-- The variants that names of entries declare have no slash. -/
theorem slash_notMem_of_mem_declared (hnames : ∀ name ∈ names, FileTree.IsName name)
    (h : variant ∈ declared names) : '/' ∉ variant := by
  obtain ⟨-, name, hname, rfl | ⟨x, rfl⟩⟩ := mem_declared_iff.1 h
  · have hslash := slash_notMem_of_isName (hnames _ hname)
    exact fun hmem => hslash (List.mem_append_right _ hmem)
  · have hslash := slash_notMem_of_isName (hnames _ hname)
    exact fun hmem => hslash (List.mem_append_left _ (List.mem_append_right _ hmem))

theorem isFileName_nameStart (h : '/' ∉ variant) : Path.IsFileName (nameStart ++ variant) := by
  refine ⟨List.cons_ne_nil _ _, fun hmem => ?_, fun heq => ?_, fun heq => ?_⟩
  · exact (List.mem_append.1 hmem).elim (by decide) h
  · exact absurd (List.cons.inj heq).1 (by decide)
  · exact absurd (List.cons.inj heq).1 (by decide)

/-- **The directory of a variant is a child of the build directory.** -/
theorem components_tree (h : '/' ∉ variant) (buildDir : Text) :
    Path.components (tree buildDir variant) = Path.components buildDir ++ [.name (nameStart ++ variant)] :=
  Path.components_join (isFileName_nameStart h) buildDir

theorem components_tree_inj {other : Text} (h : '/' ∉ variant) (hother : '/' ∉ other) {buildDir : Text}
    (heq : Path.components (tree buildDir variant) = Path.components (tree buildDir other)) : variant = other := by
  rw [components_tree h, components_tree hother] at heq
  have hname := (List.cons.inj (List.append_cancel_left heq)).1
  exact List.append_cancel_left (Path.Component.name.inj hname)

/-- **Directories of variants declare just these variants**, and all their names are text. -/
theorem declared_trees {variants : List Text} (hvariants : ∀ variant ∈ variants, IsVariant variant)
    (h : ∀ name, name ∈ names ↔ ∃ variant ∈ variants, name = encode (nameStart ++ variant)) (dir : Text) :
    (∀ variant, variant ∈ declared names ↔ variant ∈ variants) ∧ warnings dir names = [] := by
  constructor
  · intro variant
    rw [mem_declared_iff_declaredBy?]
    constructor
    · rintro ⟨name, hname, hdeclared⟩
      obtain ⟨other, hother, heq⟩ := (h _).1 hname
      rw [Utf8.encode_injective heq, declaredBy?_nameStart (hvariants other hother)] at hdeclared
      exact Option.some.inj hdeclared ▸ hother
    · intro hvariant
      exact ⟨_, (h _).2 ⟨variant, hvariant, rfl⟩, declaredBy?_nameStart (hvariants variant hvariant)⟩
  · have hnone : ∀ name ∈ names, ¬ (Utf8.toText? name).isNone = true := by
      intro name hname
      obtain ⟨variant, -, rfl⟩ := (h name).1 hname
      rw [Utf8.toText?_eq_some_iff.2 rfl]
      exact Bool.false_ne_true
    rw [warnings, List.filter_eq_nil_iff.2 hnone, List.map_nil]

section Listing

variable {fileTree : FileTree} {here : Location} {dir : Text}

theorem variants_of_list (h : fileTree.list here (encode dir) = .ok names) :
    variants fileTree here dir = (.ok (declared names), warnings dir names) := by
  rw [variants, h]

/-- **Variants and their directories correspond.**  A directory that is listed declares, ascending and each once,
the variants that have an entry, whatever the order of the entries and whatever there is besides; entries that are
not text are warned of.  The directory of each of these variants is a child of the build directory whose name
declares the variant again, no two of them have the same, and just the directories of some of them declare just
these. -/
theorem variants_correspond (htree : fileTree.WellFormed) (hlist : fileTree.list here (encode dir) = .ok names) :
    ∃ (found : List Text) (odd : List Bytes),
      variants fileTree here dir = (.ok found, odd.map (notTextEvent dir)) ∧
      (∀ variant, variant ∈ found ↔ (variant ≠ [] ∧ '.' ∉ variant) ∧ ∃ name ∈ names,
        name = encode (nameStart ++ variant) ∨ ∃ x, name = encode (nameStart ++ variant ++ '.' :: x)) ∧
      found.Nodup ∧ found.Pairwise (fun variant other => encode variant < encode other) ∧
      (odd.Sublist names ∧ ∀ name ∈ names, name ∈ odd ↔ ¬ IsText name) ∧
      (∀ (fileTree' : FileTree) (here' : Location) (dir' : Text) (names' : List Bytes),
        fileTree'.list here' (encode dir') = .ok names' →
        (∀ text, encode text ∈ names' ↔ encode text ∈ names) →
        (variants fileTree' here' dir').1 = .ok found) ∧
      (∀ variant ∈ found, ∀ buildDir, ∃ file,
        Path.components (tree buildDir variant) = Path.components buildDir ++ [.name file] ∧
        declaredBy? file = some variant) ∧
      (∀ variant ∈ found, ∀ other ∈ found, variant ≠ other → ∀ buildDir,
        Path.components (tree buildDir variant) ≠ Path.components (tree buildDir other)) ∧
      ∀ (chosen : List Text) (fileTree' : FileTree) (here' : Location) (buildDir : Text) (names' : List Bytes),
        chosen ⊆ found → fileTree'.list here' (encode buildDir) = .ok names' →
        (∀ name, name ∈ names' ↔ ∃ variant ∈ chosen, ∃ file,
          Path.components (tree buildDir variant) = Path.components buildDir ++ [.name file] ∧
          name = encode file) →
        ∃ found', variants fileTree' here' buildDir = (.ok found', []) ∧
          ∀ variant, variant ∈ found' ↔ variant ∈ chosen := by
  obtain ⟨location, -, hnames⟩ := FileTree.list_eq_ok_iff.1 hlist
  have hslash : ∀ variant ∈ declared names, '/' ∉ variant := fun variant hvariant =>
    slash_notMem_of_mem_declared (fun name hname => htree.isName_of_mem_names (hnames ▸ hname)) hvariant
  obtain ⟨odd, hsublist, hodd, hwarnings⟩ := exists_warnings dir names
  refine ⟨declared names, odd, hwarnings ▸ variants_of_list hlist, fun variant => mem_declared_iff,
    (ascends_declared names).nodup, ascends_declared names, ⟨hsublist, hodd⟩, ?_, ?_, ?_, ?_⟩
  · intro fileTree' here' dir' names' hlist' htexts
    rw [variants_of_list hlist', declared_eq_of_mem_iff htexts]
  · intro variant hvariant buildDir
    exact ⟨_, components_tree (hslash variant hvariant) buildDir,
      declaredBy?_nameStart (mem_declared_iff.1 hvariant).1⟩
  · intro variant hvariant other hother hne buildDir heq
    exact hne (components_tree_inj (hslash variant hvariant) (hslash other hother) heq)
  · intro chosen fileTree' here' buildDir names' hchosen hlist' hnames'
    have htrees : ∀ name, name ∈ names' ↔ ∃ variant ∈ chosen, name = encode (nameStart ++ variant) := by
      intro name
      rw [hnames']
      refine exists_congr fun variant => and_congr_right fun hvariant => ?_
      rw [components_tree (hslash variant (hchosen hvariant))]
      simp only [List.append_cancel_left_eq, List.cons.injEq, Path.Component.name.injEq, and_true, exists_eq_left']
    obtain ⟨hfound, hnone⟩ :=
      declared_trees (fun variant hvariant => (mem_declared_iff.1 (hchosen hvariant)).1) htrees buildDir
    exact ⟨declared names', hnone ▸ variants_of_list hlist', hfound⟩

/-! ### A directory with odd entries -/

/-- The names of the entries, one of which is not text. -/
def oddNames : List Bytes :=
  ["tests_san_ubsan.cmake", "tests_san_asan.tar.gz", "tests_san_", "tests_san_asan", "tests_san_.x", "tests_san"].map
      (fun name => encode name.toList)
    ++ [[0x74, 0xFF], encode "tests_san_tests_san_asan".toList]

/-- A directory with these entries. -/
def oddTree : FileTree := { entries := oddNames.map fun name => ([name], .file (.bytes []) 0o644) }

theorem wellFormed_oddTree : oddTree.WellFormed := ⟨by decide, by decide⟩

theorem list_oddTree : oddTree.list [] (encode ".".toList) = .ok oddNames := by cbv

theorem variants_oddTree :
    variants oddTree [] ".".toList
      = (.ok ["asan".toList, "tests_san_asan".toList, "ubsan".toList],
          [notTextEvent ".".toList [0x74, 0xFF]]) := by
  rw [variants_of_list list_oddTree]
  cbv

theorem variants_correspond_oddTree :
    oddTree.WellFormed ∧ oddTree.list [] (encode ".".toList) = .ok oddNames ∧
      variants oddTree [] ".".toList
        = (.ok ["asan".toList, "tests_san_asan".toList, "ubsan".toList],
            [notTextEvent ".".toList [0x74, 0xFF]]) ∧
      ∃ file, Path.components (tree "/b/".toList "tests_san_asan".toList)
          = Path.components "/b/".toList ++ [.name file] ∧
        declaredBy? file = some "tests_san_asan".toList := by
  obtain ⟨found, odd, hvariants, -, -, -, -, -, hchild, -⟩ := variants_correspond wellFormed_oddTree list_oddTree
  obtain ⟨hfound, -⟩ := Prod.mk.inj (hvariants.symm.trans variants_oddTree)
  obtain rfl := Except.ok.inj hfound
  exact ⟨wellFormed_oddTree, list_oddTree, variants_oddTree,
    hchild _ (List.mem_cons_of_mem _ List.mem_cons_self) "/b/".toList⟩

end Listing

end Sanitizer
end TestBench
