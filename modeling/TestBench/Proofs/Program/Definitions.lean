/-
# Definitions over others

Definitions are laid over others by their names as they are written (`definitionsOver`): a name of the base keeps
its place and takes the upper value, and the others come behind, in their order.  An environment is made of the
outcome by names in capitals, and there the last definition holds.

Between the two, a definition that is written like one of the base stands before all others, wherever it was.  So
a name in capitals has, if the names of the base are capitals,

| the name is defined above | value |
| --- | --- |
| in some way that the base has not | the last of these |
| only as in the base | this one |
| not at all | that of the base |

(`lastDefinition?_definitionsOver`).  This is what the definitions of the base and the upper ones, one after the
other, give the name, unless it is overtaken: unless its last definition is written as in the base, and an earlier
one that is not has another value (`lastDefinition?_definitionsOver_eq_iff`).
-/

import TestBench.Proofs.Program.Environment

namespace TestBench
namespace Program
namespace Environment

variable {base pairs : List (Text × Text)} {name : Text}

/-- The definitions that are written in no way that the base has. -/
def otherDefinitions (base pairs : List (Text × Text)) : List (Text × Text) :=
  pairs.filter fun pair => !(base.map Prod.fst).contains pair.1

/-- Definitions laid over others: known names keep their places, and the others come behind. -/
def definitionsOver (base pairs : List (Text × Text)) : List (Text × Text) :=
  (base.map fun pair => (pair.1, (pairs.lookup pair.1).getD pair.2)) ++ otherDefinitions base pairs

theorem mem_otherDefinitions_iff {pair : Text × Text} :
    pair ∈ otherDefinitions base pairs ↔ pair ∈ pairs ∧ pair.1 ∉ base.map Prod.fst := by
  rw [otherDefinitions, List.mem_filter, Keyed.not_contains_iff]

theorem lookup_otherDefinitions (h : name ∉ base.map Prod.fst) (pairs : List (Text × Text)) :
    (otherDefinitions base pairs).lookup name = pairs.lookup name := by
  let chosen := fun key => !(base.map Prod.fst).contains key
  have hchosen : chosen name = true := Keyed.not_contains_iff.2 h
  exact Keyed.lookup_filter hchosen pairs

theorem definitionsOver_nil_left (pairs : List (Text × Text)) : definitionsOver [] pairs = pairs := by
  rw [definitionsOver, List.map_nil, List.nil_append, otherDefinitions, List.filter_eq_self]
  exact fun _ _ => rfl

theorem definitionsOver_nil_right (base : List (Text × Text)) : definitionsOver base [] = base := by
  rw [definitionsOver, otherDefinitions, List.filter_nil, List.append_nil]
  exact List.map_id' base

theorem map_fst_definitionsOver (base pairs : List (Text × Text)) :
    (definitionsOver base pairs).map Prod.fst
      = base.map Prod.fst ++ Keyed.newKeys (base.map Prod.fst) (pairs.map Prod.fst) := by
  rw [definitionsOver, otherDefinitions, Keyed.newKeys, List.map_append, List.map_map, List.filter_map]
  rfl

theorem lookup_map_getD (base pairs : List (Text × Text)) (name : Text) :
    (base.map fun pair => (pair.1, (pairs.lookup pair.1).getD pair.2)).lookup name
      = (base.lookup name).map fun value => (pairs.lookup name).getD value := by
  induction base with
  | nil => rfl
  | cons pair base ih =>
    rw [List.map_cons, List.lookup_cons, List.lookup_cons, ih]
    by_cases hname : name = pair.1
    · subst hname
      simp
    · rw [beq_eq_false_iff_ne.2 hname]

theorem lookup_definitionsOver (base pairs : List (Text × Text)) (name : Text) :
    (definitionsOver base pairs).lookup name = (pairs.lookup name).or (base.lookup name) := by
  rw [definitionsOver, List.lookup_append, lookup_map_getD]
  cases hbase : base.lookup name with
  | none =>
    rw [Option.map_none, Option.none_or, Option.or_none,
      lookup_otherDefinitions (Keyed.lookup_eq_none_iff.1 hbase)]
  | some value => cases pairs.lookup name <;> rfl

/-- **A name in capitals has the last other definition**, else its own one, else the one of the base. -/
theorem lastDefinition?_definitionsOver (hnodup : (base.map Prod.fst).Nodup)
    (hcapitals : ∀ key ∈ base.map Prod.fst, Text.upperAscii key = key) (hname : Text.upperAscii name = name) :
    lastDefinition? (definitionsOver base pairs) name
      = (lastDefinition? (otherDefinitions base pairs) name).or ((pairs.lookup name).or (base.lookup name)) := by
  have hbase : lastDefinition? (base.map fun pair => (pair.1, (pairs.lookup pair.1).getD pair.2)) name
      = (base.lookup name).map fun value => (pairs.lookup name).getD value := by
    rw [← lookup_map_getD]
    refine lastDefinition?_eq_lookup (by rwa [List.map_map]) fun pair hpair => ?_
    obtain ⟨original, horiginal, rfl⟩ := List.mem_map.1 hpair
    rw [hcapitals _ (List.mem_map_of_mem horiginal)]
  rw [definitionsOver, lastDefinition?_append, hbase]
  cases hother : lastDefinition? (otherDefinitions base pairs) name with
  | some value => rfl
  | none =>
    rw [Option.none_or, Option.none_or]
    cases hlookup : base.lookup name with
    | some value => cases pairs.lookup name <;> rfl
    | none =>
      -- A definition under the name itself would be one of the others.
      rw [Option.map_none, Option.or_none]
      have hnew := Keyed.lookup_eq_none_iff.1 hlookup
      refine (Keyed.lookup_eq_none_iff.2 fun hmem => ?_).symm
      obtain ⟨pair, hpair, rfl⟩ := List.mem_map.1 hmem
      exact lastDefinition?_eq_none_iff.1 hother pair (mem_otherDefinitions_iff.2 ⟨hpair, hnew⟩) hname

/-- The last definition of a name is written as in the base, and one before it that is not gives another
value. -/
def Overtaken (base pairs : List (Text × Text)) (name : Text) : Prop :=
  name ∈ base.map Prod.fst ∧ ∃ value, lastDefinition? (otherDefinitions base pairs) name = some value ∧
    lastDefinition? pairs name ≠ some value

/-- All definitions of a name that the base does not have are written otherwise than in the base. -/
theorem lastDefinition?_otherDefinitions (hcapitals : ∀ key ∈ base.map Prod.fst, Text.upperAscii key = key)
    (h : name ∉ base.map Prod.fst) (pairs : List (Text × Text)) :
    lastDefinition? (otherDefinitions base pairs) name = lastDefinition? pairs name := by
  induction pairs using List.reverseRecOn with
  | nil => rfl
  | append_singleton pairs pair ih =>
    rw [otherDefinitions, List.filter_append, List.filter_singleton, lastDefinition?_append,
      lastDefinition?_append, ← otherDefinitions, ih]
    by_cases hpair : pair.1 ∈ base.map Prod.fst
    · have hne : Text.upperAscii pair.1 ≠ name := fun heq => h (heq ▸ (hcapitals _ hpair).symm ▸ hpair)
      rw [List.contains_iff_mem.2 hpair, lastDefinition?_singleton, if_neg hne]
      rfl
    · rw [Keyed.not_contains_iff.2 hpair, cond_true]

/-- **The merged definitions and the definitions one after the other** say the same of a name in capitals, unless
it is overtaken. -/
theorem lastDefinition?_definitionsOver_eq_iff (hnodup : (base.map Prod.fst).Nodup)
    (hcapitals : ∀ key ∈ base.map Prod.fst, Text.upperAscii key = key) (hpairs : (pairs.map Prod.fst).Nodup)
    (hname : Text.upperAscii name = name) :
    lastDefinition? (definitionsOver base pairs) name = lastDefinition? (base ++ pairs) name ↔
      ¬Overtaken base pairs name := by
  have hbase : lastDefinition? base name = base.lookup name :=
    lastDefinition?_eq_lookup hnodup fun pair hpair => by rw [hcapitals _ (List.mem_map_of_mem hpair)]
  rw [lastDefinition?_definitionsOver hnodup hcapitals hname, lastDefinition?_append, hbase]
  cases hother : lastDefinition? (otherDefinitions base pairs) name with
  | none =>
    -- Whatever defines the name is written like it.
    have hsame : lastDefinition? pairs name = pairs.lookup name := by
      refine lastDefinition?_eq_lookup hpairs fun pair hpair => ⟨fun heq => ?_, fun heq => heq ▸ hname⟩
      have hmem : pair.1 ∈ base.map Prod.fst := by
        by_contra hnew
        exact lastDefinition?_eq_none_iff.1 hother pair (mem_otherDefinitions_iff.2 ⟨hpair, hnew⟩) heq
      exact (hcapitals _ hmem).symm.trans heq
    rw [Option.none_or, hsame]
    refine iff_of_true rfl fun ⟨_, value, hvalue, _⟩ => ?_
    rw [hother] at hvalue
    exact nomatch hvalue
  | some value =>
    rw [Option.some_or]
    cases hlast : lastDefinition? pairs name with
    | none =>
      have hnone : lastDefinition? (otherDefinitions base pairs) name = none :=
        lastDefinition?_eq_none_iff.2 fun pair hpair =>
          lastDefinition?_eq_none_iff.1 hlast pair (mem_otherDefinitions_iff.1 hpair).1
      exact nomatch hother.symm.trans hnone
    | some last =>
      rw [Option.some_or]
      constructor
      · rintro heq ⟨_, value', hvalue', hne⟩
        rw [hother] at hvalue'
        exact hne (hlast.trans (heq.symm.trans hvalue'))
      · intro hnot
        by_contra hne
        refine hnot ⟨?_, value, hother, fun heq => hne (heq.symm.trans hlast)⟩
        by_contra hnew
        rw [lastDefinition?_otherDefinitions hcapitals hnew, hlast] at hother
        exact hne hother.symm

/-- **What a name in capitals has**, if the definitions are laid over a base of names in capitals. -/
theorem get?_definitionsOver (hnodup : (base.map Prod.fst).Nodup)
    (hcapitals : ∀ key ∈ base.map Prod.fst, Text.upperAscii key = key)
    (hpairs : (pairs.map Prod.fst).Nodup ∨ base = []) (hname : Text.upperAscii name = name) :
    (ofPairs (definitionsOver base pairs)).get? name
        = (lastDefinition? (otherDefinitions base pairs) name).or ((pairs.lookup name).or (base.lookup name)) ∧
      (ofPairs (base ++ pairs)).get? name = (lastDefinition? pairs name).or (base.lookup name) ∧
      ((ofPairs (definitionsOver base pairs)).get? name = (ofPairs (base ++ pairs)).get? name ↔
        ¬Overtaken base pairs name) := by
  rw [get?_ofPairs, get?_ofPairs]
  refine ⟨lastDefinition?_definitionsOver hnodup hcapitals hname, ?_, ?_⟩
  · rw [lastDefinition?_append, lastDefinition?_eq_lookup hnodup fun pair hpair => ?_]
    rw [hcapitals _ (List.mem_map_of_mem hpair)]
  · rcases hpairs with hpairs | rfl
    · exact lastDefinition?_definitionsOver_eq_iff hnodup hcapitals hpairs hname
    · rw [definitionsOver_nil_left, List.nil_append]
      exact iff_of_true rfl fun ⟨hmem, _⟩ => nomatch hmem

end Environment
end Program
end TestBench
