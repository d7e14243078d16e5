/-
# Environments by their variables

What a sequence of definitions makes of an environment, and what a test binary sees of it.

| variables | a variable has |
| --- | --- |
| `set name value` | the new value if it is `name`, else the one it had (`get?_set`) |
| `extend env pairs` | the value of its last definition, else the one it had (`get?_extend`) |
| `ofPairs pairs` | the value of its last definition, in whatever case that is written (`get?_ofPairs`) |
| `forTest inherited top` | the marker's value if it is the marker, else its value in `top`, else the inherited one (`get?_forTest`) |

The names of `ofPairs pairs` are the defined ones in capitals, each at the place of its first definition
(`names_ofPairs`).

A program is handed entries `name=value` and finds a variable by the beginning of an entry.  It finds the
right one where no name has a `=` behind its first character, and the entries can be handed over where they
hold no NUL.  Such pairs are called definitions (`IsDefinition`); all operations keep to them.
-/

import Mathlib
import TestBench.Proofs.Text.Basic
import TestBench.Proofs.Text.Keyed
import TestBench.Proofs.Text.Utf8
import TestBench.Run.Runner

namespace TestBench
namespace Program

namespace Variables

variable {α : Type} [DecidableEq α] {env : Variables α} {pairs : List (List α × List α)} {name value : List α}

omit [DecidableEq α] in
/-- Variables are the same if they are the same pairs. -/
theorem eq_of_vars {env' : Variables α} (h : env.vars = env'.vars) : env = env' := by
  obtain ⟨vars, hnodup⟩ := env
  obtain ⟨vars', hnodup'⟩ := env'
  obtain rfl : vars = vars' := h
  rfl

/-- The names of the variables. -/
def names (env : Variables α) : List (List α) := env.vars.map Prod.fst

theorem names_set (env : Variables α) (name value : List α) :
    (env.set name value).names = if name ∈ env.names then env.names else env.names ++ [name] :=
  Keyed.map_fst_put name value env.vars

theorem forall_set {p : List α × List α → Prop} (h : ∀ pair ∈ env.vars, p pair) (hpair : p (name, value)) :
    ∀ pair ∈ (env.set name value).vars, p pair := by
  intro pair hmem
  rcases Keyed.mem_put hmem with rfl | hmem
  · exact hpair
  · exact h pair hmem

theorem extend_concat (env : Variables α) (pairs : List (List α × List α)) (pair : List α × List α) :
    env.extend (pairs ++ [pair]) = (env.extend pairs).set pair.1 pair.2 := by
  simp only [extend, List.foldl_append, List.foldl_cons, List.foldl_nil]

/-- **The last definition holds**, and a variable that is not defined is as it was. -/
theorem get?_extend (env : Variables α) (pairs : List (List α × List α)) (name : List α) :
    (env.extend pairs).get? name = (pairs.reverse.lookup name).or (env.get? name) := by
  induction pairs using List.reverseRecOn with
  | nil => rfl
  | append_singleton pairs pair ih =>
    rw [extend_concat, get?_set, ih, List.reverse_concat, List.lookup_cons]
    by_cases hname : name = pair.1
    · rw [if_pos hname, beq_iff_eq.2 hname, Option.some_or]
    · rw [if_neg hname, beq_eq_false_iff_ne.2 hname]

theorem forall_extend {p : List α × List α → Prop} (h : ∀ pair ∈ env.vars, p pair)
    (hpairs : ∀ pair ∈ pairs, p pair) : ∀ pair ∈ (env.extend pairs).vars, p pair := by
  induction pairs using List.reverseRecOn with
  | nil => exact h
  | append_singleton pairs pair ih =>
    rw [extend_concat]
    obtain ⟨hfirst, hpair⟩ := List.forall_mem_append.1 hpairs
    exact forall_set (ih hfirst) (hpair pair List.mem_cons_self)

end Variables

namespace Environment

open Variables

variable {env : Environment} {pairs : List (Text × Text)} {name value : Text}

/-- The value of the last definition of a variable, in whatever case its name is written there. -/
def lastDefinition? (pairs : List (Text × Text)) (name : Text) : Option Text :=
  (pairs.reverse.find? fun pair => Text.upperAscii pair.1 = name).map Prod.snd

theorem lastDefinition?_append (first last : List (Text × Text)) (name : Text) :
    lastDefinition? (first ++ last) name = (lastDefinition? last name).or (lastDefinition? first name) := by
  rw [lastDefinition?, List.reverse_append, List.find?_append, Option.map_or]
  rfl

theorem lastDefinition?_singleton (pair : Text × Text) (name : Text) :
    lastDefinition? [pair] name = if Text.upperAscii pair.1 = name then some pair.2 else none := by
  rw [lastDefinition?, List.reverse_singleton, List.find?_singleton]
  split_ifs with h h'
  · rfl
  · exact absurd (of_decide_eq_true h) h'
  · exact absurd (decide_eq_true (by assumption)) h
  · rfl

theorem lastDefinition?_eq_none_iff :
    lastDefinition? pairs name = none ↔ ∀ pair ∈ pairs, Text.upperAscii pair.1 ≠ name := by
  simp only [lastDefinition?, Option.map_eq_none_iff, List.find?_eq_none, List.mem_reverse, decide_eq_true_iff]

/-- Where only the name itself gives the name in capitals, and stands once, there is one definition. -/
theorem lastDefinition?_eq_lookup (hnodup : (pairs.map Prod.fst).Nodup)
    (hname : ∀ pair ∈ pairs, Text.upperAscii pair.1 = name ↔ pair.1 = name) :
    lastDefinition? pairs name = pairs.lookup name := by
  cases hlast : lastDefinition? pairs name with
  | none =>
    refine (Keyed.lookup_eq_none_iff.2 fun hmem => ?_).symm
    obtain ⟨pair, hpair, heq⟩ := List.mem_map.1 hmem
    exact lastDefinition?_eq_none_iff.1 hlast pair hpair ((hname pair hpair).2 heq)
  | some value =>
    obtain ⟨pair, hpair, rfl⟩ := Option.map_eq_some_iff.1 hlast
    have hmem := List.mem_reverse.1 (List.mem_of_find?_eq_some hpair)
    have hcapitals : Text.upperAscii pair.1 = name := by simpa using List.find?_some hpair
    exact (Keyed.lookup_of_mem hnodup ((hname pair hmem).1 hcapitals ▸ hmem)).symm

/-! ### Definitions one after the other -/

theorem ofPairs_concat (pairs : List (Text × Text)) (pair : Text × Text) :
    ofPairs (pairs ++ [pair]) = (ofPairs pairs).set (Text.upperAscii pair.1) pair.2 := by
  simp only [ofPairs, List.foldl_append, List.foldl_cons, List.foldl_nil]

/-- **The last definition holds**, in whatever case the name is written. -/
theorem get?_ofPairs (pairs : List (Text × Text)) (name : Text) :
    (ofPairs pairs).get? name = lastDefinition? pairs name := by
  induction pairs using List.reverseRecOn with
  | nil => rfl
  | append_singleton pairs pair ih =>
    rw [ofPairs_concat, get?_set, ih, lastDefinition?_append, lastDefinition?_singleton]
    by_cases hname : name = Text.upperAscii pair.1
    · rw [if_pos hname, if_pos hname.symm, Option.some_or]
    · rw [if_neg hname, if_neg (Ne.symm hname), Option.none_or]

theorem eraseDups_concat (l : List Text) (a : Text) :
    (l ++ [a]).eraseDups = if a ∈ l then l.eraseDups else l.eraseDups ++ [a] := by
  rw [List.eraseDups_append]
  by_cases h : a ∈ l
  · simp [h, List.removeAll]
  · simp [h, List.removeAll, List.eraseDups_cons]

/-- **A variable keeps the place of its first definition.** -/
theorem names_ofPairs (pairs : List (Text × Text)) :
    (ofPairs pairs).names = (pairs.map fun pair => Text.upperAscii pair.1).eraseDups := by
  induction pairs using List.reverseRecOn with
  | nil => rfl
  | append_singleton pairs pair ih =>
    rw [ofPairs_concat, names_set, ih, List.map_append, List.map_singleton, eraseDups_concat]
    simp only [List.mem_eraseDups]

theorem upperAscii_upperAscii (text : Text) :
    Text.upperAscii (Text.upperAscii text) = Text.upperAscii text := by
  rw [Text.upperAscii, Text.upperAscii, List.map_map]
  exact List.map_congr_left fun c _ => c.toUpper_toUpper_eq_toUpper

theorem upperAscii_of_mem_names (h : name ∈ (ofPairs pairs).names) : Text.upperAscii name = name := by
  rw [names_ofPairs, List.mem_eraseDups] at h
  obtain ⟨pair, -, rfl⟩ := List.mem_map.1 h
  exact upperAscii_upperAscii pair.1

/-- What definitions make of an environment, if their names are capitals and no two are the same. -/
theorem vars_ofPairs (hnodup : (pairs.map Prod.fst).Nodup)
    (hcapitals : ∀ name ∈ pairs.map Prod.fst, Text.upperAscii name = name) : (ofPairs pairs).vars = pairs := by
  induction pairs using List.reverseRecOn with
  | nil => rfl
  | append_singleton pairs pair ih =>
    rw [List.map_append, List.map_singleton] at hnodup hcapitals
    have hfirst := List.nodup_append.1 hnodup
    have hnew : pair.1 ∉ pairs.map Prod.fst := fun hmem => hfirst.2.2 _ hmem _ List.mem_cons_self rfl
    have hpairs := ih hfirst.1 fun name hname => hcapitals name (List.mem_append_left _ hname)
    rw [ofPairs_concat, hcapitals pair.1 (List.mem_append_right _ List.mem_cons_self), vars_set, hpairs]
    exact Keyed.put_of_notMem hnew pair.2

/-- An environment is made of its own variables, if their names are capitals. -/
theorem ofPairs_vars (hcapitals : ∀ name ∈ env.names, Text.upperAscii name = name) : ofPairs env.vars = env :=
  eq_of_vars (vars_ofPairs env.nodup hcapitals)

theorem forall_ofPairs {p : Text × Text → Prop} (h : ∀ pair ∈ pairs, p (Text.upperAscii pair.1, pair.2)) :
    ∀ pair ∈ (ofPairs pairs).vars, p pair := by
  induction pairs using List.reverseRecOn with
  | nil => exact nofun
  | append_singleton pairs pair ih =>
    rw [ofPairs_concat]
    obtain ⟨hpairs, hpair⟩ := List.forall_mem_append.1 h
    exact forall_set (ih hpairs) (hpair pair List.mem_cons_self)

end Environment

namespace Block

open Variables Environment

variable {block : Block} {env : Environment} {pairs : List (Text × Text)} {name value : Bytes}

/-! ### One environment over another -/

/-- What is found in the bytes of texts is what is found in the texts. -/
theorem lookup_map_encoded (pairs : List (Text × Text)) (name : Text) :
    (pairs.map encoded).lookup (Utf8.encode name) = (pairs.lookup name).map Utf8.encode := by
  induction pairs with
  | nil => rfl
  | cons pair pairs ih =>
    rw [List.map_cons, List.lookup_cons, ih, List.lookup_cons, encoded]
    by_cases hname : name = pair.1
    · rw [beq_iff_eq.2 hname, beq_iff_eq.2 (congrArg Utf8.encode hname)]
      rfl
    · rw [beq_eq_false_iff_ne.2 hname, beq_eq_false_iff_ne.2 fun h => hname (Utf8.encode_injective h)]

theorem nodup_encoded (env : Environment) : ((env.vars.map encoded).map Prod.fst).Nodup := by
  have hnames : (env.vars.map encoded).map Prod.fst = env.names.map Utf8.encode := by
    rw [names, List.map_map, List.map_map]
    rfl
  rw [hnames]
  exact env.nodup.map fun _ _ => Utf8.encode_injective

/-- **The upper environment comes first.** -/
theorem get?_overlay (block : Block) (env : Environment) (name : Bytes) :
    (block.overlay env).get? name = ((env.vars.map encoded).lookup name).or (block.get? name) := by
  rw [overlay, get?_extend, Keyed.lookup_reverse (nodup_encoded env)]

/-- **The marker comes first, then the variables for the sanitizers, then the inherited ones.** -/
theorem get?_forTest (inherited : Block) (env : Environment) (name : Bytes) :
    (forTest inherited env).get? name
      = if name = Utf8.encode marker.1 then some (Utf8.encode marker.2)
        else ((env.vars.map encoded).lookup name).or (inherited.get? name) := by
  rw [forTest, encoded, get?_set, get?_overlay]

/-! ### What a program finds -/

/-- A name that a program can find: where it stands before its value, the first `=` behind its first
byte is the one between the two. -/
def IsVariableName (name : Bytes) : Prop := name ≠ [] ∧ equalsSign ∉ name.tail

instance (name : Bytes) : Decidable (IsVariableName name) := inferInstanceAs (Decidable (_ ∧ _))

/-- A name and a value that can be handed to a program and found there. -/
structure IsDefinition (pair : Bytes × Bytes) : Prop where
  isVariableName : IsVariableName pair.1
  nul_notMem_name : 0 ∉ pair.1
  nul_notMem_value : 0 ∉ pair.2

instance (pair : Bytes × Bytes) : Decidable (IsDefinition pair) :=
  decidable_of_iff (IsVariableName pair.1 ∧ 0 ∉ pair.1 ∧ 0 ∉ pair.2)
    ⟨fun h => ⟨h.1, h.2.1, h.2.2⟩, fun h => ⟨h.1, h.2, h.3⟩⟩

/-- The entry of a variable begins with its name and no other, where both are names of variables. -/
theorem dropHead?_entry {other : Bytes} (hname : IsVariableName name) (hother : IsVariableName other)
    (value : Bytes) :
    dropHead? (name ++ [equalsSign]) (other ++ equalsSign :: value) = if name = other then some value else none := by
  split_ifs with heq
  · rw [heq, List.append_cons other equalsSign value, dropHead?_append]
  · refine Option.eq_none_iff_forall_ne_some.2 fun rest hrest => heq ?_
    have hentry := eq_append_of_dropHead? hrest
    rw [List.append_assoc, List.singleton_append] at hentry
    obtain ⟨b, name, rfl⟩ := List.exists_cons_of_ne_nil hname.1
    obtain ⟨b', other, rfl⟩ := List.exists_cons_of_ne_nil hother.1
    -- Behind their first bytes, both names are what stands before the first `=`.
    rw [List.cons_append, List.cons_append, List.cons.injEq] at hentry
    have hsame := congrArg (List.takeWhile (· != equalsSign)) hentry.2
    have hname' : equalsSign ∉ name := hname.2
    have hother' : equalsSign ∉ other := hother.2
    rw [takeWhile_ne_append hother', takeWhile_ne_append hname'] at hsame
    rw [hentry.1, hsame]

/-- **A program finds the variables that there are.** -/
theorem seen?_eq_get? (hblock : ∀ pair ∈ block.vars, IsDefinition pair) (hname : IsVariableName name) :
    block.seen? name = block.get? name := by
  rw [seen?, get?]
  generalize block.vars = vars at hblock
  induction vars with
  | nil => rfl
  | cons pair vars ih =>
    obtain ⟨other, value⟩ := pair
    obtain ⟨hpair, hvars⟩ := List.forall_mem_cons.1 hblock
    have hother : IsVariableName other := hpair.isVariableName
    have hentry := dropHead?_entry hname hother value
    rw [List.findSome?_cons]
    dsimp only
    rw [hentry, List.lookup_cons]
    by_cases heq : name = other
    · rw [if_pos heq, heq, beq_self_eq_true]
    · rw [if_neg heq, beq_eq_false_iff_ne.2 heq]
      exact ih hvars

theorem hasNul_eq_false (hblock : ∀ pair ∈ block.vars, IsDefinition pair) : block.hasNul = false := by
  rw [hasNul, List.any_eq_false]
  intro pair hpair
  simp [(hblock pair hpair).nul_notMem_name, (hblock pair hpair).nul_notMem_value]

/-! ### Definitions in texts -/

/-- A `=` stands behind the first byte of a text iff one stands behind its first character. -/
theorem isVariableName_encode_iff {name : Text} :
    IsVariableName (Utf8.encode name) ↔ name ≠ [] ∧ '=' ∉ name.tail := by
  cases name with
  | nil => exact iff_of_false (fun h => h.1 rfl) fun h => h.1 rfl
  | cons c rest =>
    obtain ⟨first, tail, hc, -, htail⟩ := Utf8.encodeChar_eq_cons c
    have hbytes : Utf8.encode (c :: rest) = first :: (tail ++ Utf8.encode rest) := by
      rw [Utf8.encode, List.flatMap_cons, hc]
      rfl
    have hnot : equalsSign ∉ tail := fun hmem => absurd (htail _ hmem) (by decide)
    rw [IsVariableName, hbytes, List.tail_cons, List.mem_append, or_iff_right hnot,
      Utf8.mem_encode_iff (show Utf8.encodeChar '=' = [equalsSign] by decide), List.tail_cons]
    exact and_congr_left fun _ => iff_of_true (List.cons_ne_nil _ _) (List.cons_ne_nil _ _)

theorem isDefinition_encoded_iff {pair : Text × Text} :
    IsDefinition (encoded pair) ↔
      (pair.1 ≠ [] ∧ '=' ∉ pair.1.tail) ∧ Char.ofNat 0 ∉ pair.1 ∧ Char.ofNat 0 ∉ pair.2 := by
  have hnul : ∀ text, 0 ∈ Utf8.encode text ↔ Char.ofNat 0 ∈ text := fun _ => Utf8.mem_encode_iff (by decide)
  rw [← isVariableName_encode_iff, ← hnul, ← hnul]
  exact ⟨fun h => ⟨h.1, h.2, h.3⟩, fun h => ⟨h.1, h.2.1, h.2.2⟩⟩

/-- A character that is no letter is in a text in capitals only if it is in the text. -/
theorem notMem_upperAscii {c : Char} {text : Text} (hc : c.isUpper = false) (h : c ∉ text) :
    c ∉ Text.upperAscii text := by
  intro hmem
  obtain ⟨original, horiginal, heq⟩ := List.mem_map.1 hmem
  have hlower : ¬original.isLower = true := by
    intro hlower
    have hupper : c.isUpper = original.isAlpha := heq ▸ Char.isUpper_toUpper_eq_isAlpha original
    rw [hc, Char.isAlpha, hlower, Bool.or_true] at hupper
    exact nomatch hupper
  rw [Char.toUpper_eq_of_not_isLower hlower] at heq
  exact h (heq ▸ horiginal)

theorem IsDefinition.upperAscii {pair : Text × Text} (h : IsDefinition (encoded pair)) :
    IsDefinition (encoded (Text.upperAscii pair.1, pair.2)) := by
  obtain ⟨⟨hne, hequals⟩, hname, hvalue⟩ := isDefinition_encoded_iff.1 h
  refine isDefinition_encoded_iff.2 ⟨⟨fun hnil => hne (List.map_eq_nil_iff.1 hnil), ?_⟩, ?_, hvalue⟩
  · rw [Text.upperAscii, ← List.map_tail]
    exact notMem_upperAscii (by decide) hequals
  · exact notMem_upperAscii (by decide) hname

theorem isDefinition_marker : IsDefinition (encoded marker) := by decide

theorem forall_isDefinition_encoded (hpairs : ∀ pair ∈ pairs, IsDefinition (encoded pair)) :
    ∀ pair ∈ (Environment.ofPairs pairs).vars, IsDefinition (encoded pair) :=
  forall_ofPairs fun pair hpair => (hpairs pair hpair).upperAscii

/-- Definitions make nothing but definitions for a test binary. -/
theorem forall_isDefinition_forTest {inherited : Block}
    (hinherited : ∀ pair ∈ inherited.vars, IsDefinition pair)
    (henv : ∀ pair ∈ env.vars, IsDefinition (encoded pair)) :
    ∀ pair ∈ (forTest inherited env).vars, IsDefinition pair :=
  forall_set (forall_extend hinherited (List.forall_mem_map.2 henv)) isDefinition_marker

end Block

namespace Environment

open Variables Block

variable {pairs : List (Text × Text)}

/-- **The last definition of a variable is what test binaries see of it.**  The names are the defined ones in
capitals, each once and at the place of its first definition; an environment made of its own variables is the
same; and every test binary sees the marker, whatever else sets it, then the variables of the environment, then
those that are inherited. -/
theorem ofPairs_seen (pairs : List (Text × Text)) (hpairs : ∀ pair ∈ pairs, IsDefinition (encoded pair)) :
    (ofPairs pairs).names = (pairs.map fun pair => Text.upperAscii pair.1).eraseDups ∧
      (ofPairs pairs).names.Nodup ∧
      (∀ name, (ofPairs pairs).get? name = lastDefinition? pairs name) ∧
      ofPairs (ofPairs pairs).vars = ofPairs pairs ∧
      ∀ (runner : Run.Runner) (host : Host), runner.environment = ofPairs pairs →
        (∀ pair ∈ host.environment.vars, IsDefinition pair) →
        ∃ handed : Block, handed = .forTest host.environment (ofPairs pairs) ∧
          (∀ path, runner.attempt host path = runner.supervisor host handed runner.limit path) ∧
          handed.hasNul = false ∧
          handed.seen? (Utf8.encode marker.1) = some (Utf8.encode marker.2) ∧
          (∀ name ∈ (ofPairs pairs).names, name ≠ marker.1 →
            handed.seen? (Utf8.encode name) = ((ofPairs pairs).get? name).map Utf8.encode) ∧
          ∀ name, IsVariableName name → (∀ own ∈ (ofPairs pairs).names, name ≠ Utf8.encode own) →
            name ≠ Utf8.encode marker.1 → handed.seen? name = host.environment.seen? name := by
  refine ⟨names_ofPairs pairs, (ofPairs pairs).nodup, get?_ofPairs pairs,
    ofPairs_vars fun name => upperAscii_of_mem_names, fun runner host henvironment hinherited => ?_⟩
  have hdefined := forall_isDefinition_encoded hpairs
  have hhanded := forall_isDefinition_forTest hinherited hdefined
  have hfound := fun {name} (hname : IsVariableName name) =>
    (seen?_eq_get? hhanded hname).trans (get?_forTest host.environment (ofPairs pairs) name)
  refine ⟨_, rfl, fun path => by rw [Run.Runner.attempt, henvironment], hasNul_eq_false hhanded, ?_, ?_, ?_⟩
  · have hmarker : IsVariableName (Utf8.encode marker.1) := isDefinition_marker.isVariableName
    rw [hfound hmarker, if_pos rfl]
  · intro name hmem hne
    obtain ⟨pair, hpair, rfl⟩ := List.mem_map.1 hmem
    have hname : IsVariableName (Utf8.encode pair.1) := (hdefined pair hpair).isVariableName
    have hvalue : (ofPairs pairs).vars.lookup pair.1 = some pair.2 :=
      Keyed.lookup_of_mem (ofPairs pairs).nodup hpair
    rw [hfound hname, if_neg fun h => hne (Utf8.encode_injective h), lookup_map_encoded, hvalue,
      show (ofPairs pairs).get? pair.1 = some pair.2 from hvalue]
    rfl
  · intro name hname hmem hne
    have hnone : ((ofPairs pairs).vars.map encoded).lookup name = none := by
      rw [Keyed.lookup_eq_none_iff, List.map_map, List.mem_map]
      rintro ⟨pair, hpair, rfl⟩
      exact hmem pair.1 (List.mem_map_of_mem hpair) rfl
    rw [hfound hname, if_neg hne, hnone, Option.none_or, seen?_eq_get? hinherited hname]

/-- Definitions of which two are of one variable, and one is of the marker. -/
def recased : List (Text × Text) :=
  [("asan_options".toList, "a".toList), ("ktest".toList, "0".toList), ("LSAN_OPTIONS".toList, []),
    ("ASAN_OPTIONS".toList, "b=c".toList)]

/-- What is inherited: the marker and a variable of these otherwise, and one whose value is no text, twice. -/
def inheritedOtherwise : Block :=
  .ofPairs [(Utf8.encode "KTEST".toList, Utf8.encode "7".toList), (Utf8.encode "HOME".toList, [47]),
    (Utf8.encode "ASAN_OPTIONS".toList, Utf8.encode "x".toList), (Utf8.encode "HOME".toList, [47, 255])]

/-- A host with these variables. -/
def settingHost : Host := { tree := .empty, here := [], processors := 1, environment := inheritedOtherwise }

/-- The value of the definition in capitals holds, which is the later one; the marker is set again; and what is
not defined is inherited, with the last of its values. -/
theorem ofPairs_seen_recased :
    (∀ pair ∈ recased, IsDefinition (encoded pair)) ∧
      (∀ pair ∈ settingHost.environment.vars, IsDefinition pair) ∧
      (ofPairs recased).names = ["ASAN_OPTIONS".toList, "KTEST".toList, "LSAN_OPTIONS".toList] ∧
      ∃ handed : Block,
        (∀ path, Run.Runner.attempt { threads := 1, limit := none, environment := ofPairs recased } settingHost path
          = Run.Supervisor.undisturbed settingHost handed none path) ∧
        handed.seen? (Utf8.encode "KTEST".toList) = some (Utf8.encode "1".toList) ∧
        handed.seen? (Utf8.encode "ASAN_OPTIONS".toList) = some (Utf8.encode "b=c".toList) ∧
        handed.seen? (Utf8.encode "HOME".toList) = some [47, 255] := by
  have hrecased : ∀ pair ∈ recased, IsDefinition (encoded pair) := by decide
  have hhost : ∀ pair ∈ settingHost.environment.vars, IsDefinition pair := by decide
  obtain ⟨hnames, -, -, -, hruns⟩ := ofPairs_seen recased hrecased
  obtain ⟨handed, -, hattempt, -, hmarker, hset, hinherited⟩ :=
    hruns { threads := 1, limit := none, environment := ofPairs recased } settingHost rfl hhost
  refine ⟨hrecased, hhost, hnames.trans (by decide), handed, hattempt, hmarker, ?_, ?_⟩
  · rw [hset _ (by decide) (by decide)]
    decide
  · rw [hinherited _ (by decide) (by decide) (by decide)]
    decide

end Environment
end Program
end TestBench
