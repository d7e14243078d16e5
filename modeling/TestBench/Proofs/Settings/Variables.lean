/-
# The variables that settings define

A source may define variables for the sanitizer runtimes, and the defaults define two.  The source's definitions
are the texts of its table (`ownVariables`), and they are laid over the default ones (`Environment.definitionsOver`)
unless the source breaks a default table, in which case they are alone (`Preferences.exists_environment`).  This
is seen by going down to the table in both settings, those of the source and those over the defaults: there a text
is the source's own or the default one, and the order of the keys is known (`Value.Layered.exists_definitionsOver`).

So a variable of a file that loads has the file's last definition of it, unless that is written like a default
one and overtaken by an earlier one that is written otherwise (`load_lastDefinition`).
-/

import TestBench.Proofs.Program.Definitions
import TestBench.Proofs.Settings.Loading

namespace TestBench
namespace Settings

open Program
open Program.Environment (definitionsOver)

/-! ### The variables of a source over the default ones -/

namespace Value

variable {keep : Bool}

theorem toTexts_cons_eq_ok_iff {key : Text} {value : Value} {rest : Fields} {texts : List (Text × Text)} :
    toTexts ((key, value) :: rest) = .ok texts ↔
      ∃ text more, value.toText = .ok text ∧ toTexts rest = .ok more ∧ texts = (key, text) :: more := by
  rw [toTexts]
  cases value.toText with
  | error err => simp only [reduceCtorEq, false_and, exists_false]
  | ok text =>
    cases toTexts rest with
    | error err => simp only [Except.map, reduceCtorEq, false_and, and_false, exists_false]
    | ok more =>
      simp only [Except.map, Except.ok.injEq]
      constructor
      · intro h
        exact ⟨text, more, rfl, rfl, h.symm⟩
      · rintro ⟨_, _, rfl, rfl, rfl⟩
        rfl

/-- Texts are under the keys of their values. -/
theorem map_fst_toTexts {fields : Fields} {texts : List (Text × Text)} (h : toTexts fields = .ok texts) :
    texts.map Prod.fst = fields.map Prod.fst := by
  induction fields generalizing texts with
  | nil =>
    cases h
    rfl
  | cons entry rest ih =>
    obtain ⟨text, more, -, hmore, rfl⟩ := toTexts_cons_eq_ok_iff.1 h
    rw [List.map_cons, List.map_cons, ih hmore]

theorem lookup_toTexts {fields : Fields} {texts : List (Text × Text)} (h : toTexts fields = .ok texts)
    (key : Text) : (texts.lookup key).map Except.ok = (fields.lookup key).map toText := by
  induction fields generalizing texts with
  | nil =>
    cases h
    rfl
  | cons entry rest ih =>
    obtain ⟨text, more, htext, hmore, rfl⟩ := toTexts_cons_eq_ok_iff.1 h
    rw [List.lookup_cons, List.lookup_cons]
    cases key == entry.1 with
    | true => exact congrArg some htext.symm
    | false => exact ih hmore

theorem exists_toTexts {fields : Fields} (h : ∀ entry ∈ fields, ∃ text, entry.2.toText = .ok text) :
    ∃ texts, toTexts fields = .ok texts := by
  induction fields with
  | nil => exact ⟨[], rfl⟩
  | cons entry rest ih =>
    obtain ⟨⟨text, htext⟩, hrest⟩ := List.forall_mem_cons.1 h
    obtain ⟨more, hmore⟩ := ih hrest
    exact ⟨_, toTexts_cons_eq_ok_iff.2 ⟨text, more, htext, hmore, rfl⟩⟩

/-- What stands under a key of fields that have texts has a text. -/
theorem exists_text_of_lookup {fields : Fields} {texts : List (Text × Text)} (h : toTexts fields = .ok texts)
    {key : Text} {value : Value} (hvalue : fields.lookup key = some value) :
    ∃ text, value.toText = .ok text := by
  have hlookup := lookup_toTexts h key
  rw [hvalue, Option.map_some] at hlookup
  obtain ⟨text, -, htext⟩ := Option.map_eq_some_iff.1 hlookup
  exact ⟨text, htext.symm⟩

/-- Under a key of fields that have texts stands the source's own value, or the default one. -/
theorem Layered.eq_or_of_toTexts {byDefault own : Option Value} {outcome : Fields} {texts : List (Text × Text)}
    {key : Text} (h : Layered keep byDefault own (outcome.lookup key)) (htexts : toTexts outcome = .ok texts) :
    own = outcome.lookup key ∨ own = none ∧ outcome.lookup key = byDefault := by
  rcases h.eq_or_tables with heq | heq | ⟨_, _, origin, fields, -, heq⟩
  · exact .inl heq
  · exact .inr heq
  · obtain ⟨text, htext⟩ := exists_text_of_lookup htexts heq
    exact nomatch htext

/-- **The texts of the outcome are those of the source over those by default**, or just those of the source. -/
theorem Layered.exists_definitionsOver {byDefault own outcome : Fields} {base texts : List (Text × Text)}
    (h : ∀ key, Layered keep (byDefault.lookup key) (own.lookup key) (outcome.lookup key))
    (hkeys : KeysLayered keep byDefault own outcome) (hown : (own.map Prod.fst).Nodup)
    (houtcome : (outcome.map Prod.fst).Nodup) (hbase : toTexts byDefault = .ok base)
    (htexts : toTexts outcome = .ok texts) :
    ∃ pairs, toTexts own = .ok pairs ∧
      (texts = definitionsOver base pairs ∨ keep = false ∧ texts = pairs) := by
  have hpairs : ∀ entry ∈ own, ∃ text, entry.2.toText = .ok text := by
    intro entry hentry
    have hlookup := Keyed.lookup_of_mem hown hentry
    rcases (h entry.1).eq_or_of_toTexts htexts with heq | ⟨hnone, -⟩
    · exact exists_text_of_lookup htexts (heq.symm.trans hlookup)
    · exact nomatch hlookup.symm.trans hnone
  obtain ⟨pairs, hpairs⟩ := exists_toTexts hpairs
  refine ⟨pairs, hpairs, ?_⟩
  have hnodup : (texts.map Prod.fst).Nodup := map_fst_toTexts htexts ▸ houtcome
  have htext : Function.Injective (Option.map (Except.ok : Text → Except ReadError Text)) :=
    Option.map_injective fun _ _ => Except.ok.inj
  rcases hkeys with hkeys | ⟨hkeep, hkeys⟩
  · refine .inl (Keyed.eq_of_lookup ?_ hnodup fun key => htext ?_)
    · rw [Environment.map_fst_definitionsOver, map_fst_toTexts htexts, map_fst_toTexts hbase,
        map_fst_toTexts hpairs, hkeys]
    · have hlookup : outcome.lookup key = (own.lookup key).or (byDefault.lookup key) := by
        rcases (h key).eq_or_of_toTexts htexts with heq | ⟨hnone, heq⟩
        · rw [heq]
          cases houtcome : outcome.lookup key with
          | some value => rfl
          | none =>
            -- The keys of the outcome are no fewer than the default ones.
            have hmem := Keyed.lookup_eq_none_iff.1 houtcome
            rw [hkeys, List.mem_append, not_or] at hmem
            exact (Keyed.lookup_eq_none_iff.2 hmem.1).symm
        · rw [hnone, heq, Option.none_or]
      rw [Environment.lookup_definitionsOver, Option.map_or, lookup_toTexts htexts, lookup_toTexts hpairs,
        lookup_toTexts hbase, hlookup, Option.map_or]
  · refine .inr ⟨hkeep, Keyed.eq_of_lookup ?_ hnodup fun key => htext ?_⟩
    · rw [map_fst_toTexts htexts, map_fst_toTexts hpairs, hkeys]
    · rw [lookup_toTexts htexts, lookup_toTexts hpairs]
      rcases (h key).eq_or_of_toTexts htexts with heq | ⟨hnone, -⟩
      · rw [heq]
      · have hmem := Keyed.lookup_eq_none_iff.1 hnone
        rw [← hkeys] at hmem
        rw [hnone, Keyed.lookup_eq_none_iff.2 hmem]

/-- A table that is laid over nothing keeps its fields, in their order. -/
theorem overlayFields_of_nodup {above below : Fields} (h : ((below ++ above).map Prod.fst).Nodup) :
    overlayFields above below = below ++ above.map fun entry => (entry.1, entry.2.overlay missing) := by
  induction above generalizing below with
  | nil => rw [overlayFields, List.map_nil, List.append_nil]
  | cons entry rest ih =>
    have hnew : entry.1 ∉ below.map Prod.fst := by
      intro hmem
      rw [List.map_append, List.map_cons] at h
      exact List.disjoint_of_nodup_append h hmem List.mem_cons_self
    rw [overlayFields, Keyed.put_of_notMem hnew, Keyed.lookup_eq_none_iff.2 hnew, ih]
    · rw [List.append_assoc]
      rfl
    · simpa only [List.append_assoc, List.singleton_append, List.map_append, List.map_cons] using h

theorem toText_of_overlay {value : Value} {text : Text} (h : (value.overlay missing).toText = .ok text) :
    value.toText = .ok text := by
  cases value with
  | plain => rwa [overlay] at h
  | list => rwa [overlay] at h
  | table =>
    rw [overlay] at h
    exact nomatch h

theorem toTexts_of_overlay {fields : Fields} {texts : List (Text × Text)}
    (h : toTexts (fields.map fun entry => (entry.1, entry.2.overlay missing)) = .ok texts) :
    toTexts fields = .ok texts := by
  induction fields generalizing texts with
  | nil => exact h
  | cons entry rest ih =>
    obtain ⟨text, more, htext, hmore, rfl⟩ := toTexts_cons_eq_ok_iff.1 h
    exact toTexts_cons_eq_ok_iff.2 ⟨text, more, toText_of_overlay htext, ih hmore, rfl⟩

/-- The definitions that a place settles are the texts of its fields. -/
theorem toTexts_of_settled {place : Option Value} {definitions : List (Text × Text)}
    (h : Settled toDefinitions [] place definitions) : toTexts (fieldsOf place) = .ok definitions := by
  cases place with
  | none =>
    have hempty : definitions = [] := h
    rw [hempty]
    rfl
  | some value =>
    cases value with
    | plain => exact nomatch h
    | list => exact nomatch h
    | table => exact h

/-- **The definitions of a source over those by default**, in the place of a key of a section: they are laid over
the default ones, or are alone if a default table is broken. -/
theorem Layered.exists_definitions {byDefault own : Option Value} {whole : Value} {key : Text} {place : Nat}
    {base definitions : List (Text × Text)} (h : Layered keep byDefault own (some whole))
    (hown : (own.getD missing).Distinct) (hwhole : whole.Distinct) (hdefault : fieldsOf byDefault ≠ [])
    (hbase : toTexts (fieldsOf ((fieldsOf byDefault).lookup key)) = .ok base)
    (hsettled : Settled toDefinitions [] (whole.valueFor? key place) definitions) :
    ∃ pairs, toTexts (fieldsOf (own.bind fun whole => whole.valueFor? key place)) = .ok pairs ∧
      ((pairs.map Prod.fst).Nodup ∧ definitions = definitionsOver base pairs ∨
        keep = false ∧ definitions = pairs) := by
  have htexts := toTexts_of_settled hsettled
  cases h with
  | untouched hlistless =>
    refine ⟨[], rfl, .inl ⟨List.nodup_nil, ?_⟩⟩
    cases hlistless whole rfl with
    | plain => exact absurd rfl hdefault
    | table =>
      rw [Environment.definitionsOver_nil_right]
      exact Except.ok.inj (htexts.symm.trans hbase)
  | replaced _ hkeep =>
    refine ⟨definitions, htexts, .inr ⟨?_, rfl⟩⟩
    cases keep with
    | false => rfl
    | true => exact absurd (hkeep rfl) hdefault
  | merged h hkeys =>
    have hnodup : ∀ {fields : Fields}, fields.Distinct → ((fieldsOf (fields.lookup key)).map Prod.fst).Nodup :=
      fun hfields => (hfields.lookup key).fields.nodup
    obtain ⟨pairs, hpairs, heq⟩ := exists_definitionsOver (h key).fields (h key).keys (hnodup hown.fields)
      (hnodup hwhole.fields) hbase htexts
    refine ⟨pairs, hpairs, heq.imp_left fun heq => ⟨?_, heq⟩⟩
    rw [map_fst_toTexts hpairs]
    exact hnodup hown.fields

end Value

namespace Preferences

variable {cpus : Nat} {unknown : List Text} {source : Fields} {preferences : Preferences}

/-- The variables that a source defines by itself, in the order of the source. -/
def ownVariables (source : Fields) : Fields :=
  Value.fieldsOf (source.own.valueFor? sanitizersKey environmentKey 2)

theorem toTexts_defaultVariables :
    Value.toTexts (Value.fieldsOf ((Value.fieldsOf (defaults.lookup sanitizersKey)).lookup environmentKey))
      = .ok defaultEnvironment := rfl

/-- A source gives the section once, by its name and as a table, and in it the environment as a table of the
definitions. -/
def WritesVariables (source defined : Fields) : Prop :=
  ∃ fields origin origin', source.entriesOf sanitizersKey = [(sanitizersKey, .table origin fields)] ∧
    (fields.map Prod.fst).Nodup ∧ fields.lookup environmentKey = some (.table origin' defined) ∧
    (defined.map Prod.fst).Nodup

/-- The definitions of a source are those that it writes. -/
theorem WritesVariables.toTexts {defined : Fields} {pairs : List (Text × Text)}
    (h : WritesVariables source defined) (hpairs : Value.toTexts (ownVariables source) = .ok pairs) :
    Value.toTexts defined = .ok pairs := by
  obtain ⟨fields, origin, origin', hentries, hkeys, hdefined, hnames⟩ := h
  have hown : ownVariables source = defined.map fun entry => (entry.1, entry.2.overlay .missing) := by
    rw [ownVariables, Fields.valueFor?_own hentries (by decide) hkeys, hdefined, Option.map_some, Value.overlay]
    exact Value.overlayFields_of_nodup hnames
  rw [hown] at hpairs
  exact Value.toTexts_of_overlay hpairs

/-- **The environment** is that of the source's definitions over the default ones, unless the source breaks a
default table. -/
theorem exists_environment (h : ofSource cpus source = .ok (preferences, unknown)) :
    ∃ base pairs, Value.toTexts (ownVariables source) = .ok pairs ∧
      (base = defaultEnvironment ∧ (pairs.map Prod.fst).Nodup ∨ base = [] ∧ ¬SparesDefaultVariables source) ∧
      preferences.environment = .ofPairs (definitionsOver base pairs) := by
  obtain ⟨run, sanitizers, hsections⟩ := exists_hasSections source
  obtain ⟨_, _, draft, _, -, hsanitizers, rfl, -⟩ := (ofFields_eq_ok_iff hsections).1 h
  have hwhole := (distinct_over_defaults source).value _ (Keyed.mem_of_lookup hsections.lookup_sanitizers)
  have hnothing : Fields.Distinct [] := ⟨List.nodup_nil, nofun⟩
  have hown : source.own.Distinct := hnothing.addSource source
  obtain ⟨keep, hkeep⟩ : ∃ keep : Bool, keep = true ↔ SparesDefaultVariables source := by
    classical exact ⟨decide _, decide_eq_true_iff⟩
  have hlayered : Value.Layered keep _ _ _ := layered_own source sanitizersKey hkeep.1
  rw [hsections.lookup_sanitizers] at hlayered
  obtain ⟨pairs, hpairs, ⟨hnodup, heq⟩ | ⟨hlost, heq⟩⟩ :=
    hlayered.exists_definitions (hown.lookup sanitizersKey) hwhole (List.cons_ne_nil _ _) toTexts_defaultVariables
      (readSanitizers_settled hwhole hsanitizers).2.2
  · exact ⟨defaultEnvironment, pairs, hpairs, .inl ⟨rfl, hnodup⟩, congrArg Environment.ofPairs heq⟩
  · refine ⟨[], pairs, hpairs, .inr ⟨rfl, fun hspares => ?_⟩, ?_⟩
    · exact Bool.false_ne_true (hlost.symm.trans (hkeep.2 hspares))
    · rw [Environment.definitionsOver_nil_left]
      exact congrArg Environment.ofPairs heq

/-- Each default variable has one definition. -/
theorem nodup_defaultNames : (defaultEnvironment.map Prod.fst).Nodup := by decide

/-- The default variables have names in capitals. -/
theorem upperAscii_defaultNames :
    ∀ key ∈ defaultEnvironment.map Prod.fst, Text.upperAscii key = key := by decide

end Preferences

section Loading

open Preferences Environment

variable {cpus : Nat} {tree : FileTree} {here : Location} {directory : Text} {file : Option Text}
  {source : Fields} {preferences : Preferences} {events : List Log.Event}

/-- **The variables of a file that loads.**  The definitions of the file are laid over the default ones, or are
alone if the file breaks a default table.  A name in capitals has the last definition of the file that is written
like no default, else the one that is written like the name, else the default.  This is the last definition of the
file, or else the default, unless the name is overtaken. -/
theorem load_lastDefinition
    (hread : Source.readChosen tree here (Source.choose? tree here directory file) = .ok source)
    (h : load cpus tree here directory file = (.ok preferences, events)) :
    ∃ base pairs, Value.toTexts (ownVariables source) = .ok pairs ∧
      (∀ defined, WritesVariables source defined → Value.toTexts defined = .ok pairs) ∧
      (base = defaultEnvironment ∨ base = [] ∧ ¬SparesDefaultVariables source) ∧
      preferences.environment = .ofPairs (definitionsOver base pairs) ∧
      ∀ name, Text.upperAscii name = name →
        preferences.environment.get? name
            = (lastDefinition? (otherDefinitions base pairs) name).or
                ((pairs.lookup name).or (base.lookup name)) ∧
          (Environment.ofPairs (base ++ pairs)).get? name
            = (lastDefinition? pairs name).or (base.lookup name) ∧
          (preferences.environment.get? name = (Environment.ofPairs (base ++ pairs)).get? name ↔
            ¬Overtaken base pairs name) := by
  obtain ⟨unknown, hsource, -⟩ := (load_eq_ok_iff hread).1 h
  obtain ⟨base, pairs, hpairs, hbase, henvironment⟩ := exists_environment hsource
  refine ⟨base, pairs, hpairs, fun _ hdefined => hdefined.toTexts hpairs, hbase.imp_left And.left,
    henvironment, ?_⟩
  intro name hname
  rw [henvironment]
  rcases hbase with ⟨rfl, hnodup⟩ | ⟨rfl, -⟩
  · exact get?_definitionsOver nodup_defaultNames upperAscii_defaultNames (.inl hnodup) hname
  · exact get?_definitionsOver List.nodup_nil nofun (.inr rfl) hname

/-! ### A variable that is overtaken -/

/-- A file that defines a variable in two ways, the second one that of the defaults. -/
def recasedFile : String := "[sanitizers.env]\nasan_options = \"a\"\nASAN_OPTIONS = \"b\"\n"

/-- The definitions of the file. -/
def recasedVariables : Fields :=
  [("asan_options".toList, fromFile (.string "a".toList)), ("ASAN_OPTIONS".toList, fromFile (.string "b".toList))]

/-- What the file says. -/
def recasedSource : Fields :=
  [(sanitizersKey, .table (some tomlName) [(environmentKey, .table (some tomlName) recasedVariables)])]

/-- The preferences that the file gives. -/
def recasedPreferences : Preferences :=
  { threads := .processors, timeout := none, failOnError := false, variantsDir := none, buildCommand := none
    environment :=
      { vars := [("ASAN_OPTIONS".toList, "a".toList),
          ("UBSAN_OPTIONS".toList, "color=always:print_stacktrace=1".toList)]
        nodup := by decide } }

theorem readChosen_recasedFile :
    Source.readChosen (directoryOf recasedFile) [] (some tomlName) = .ok recasedSource := by
  cbv

theorem ofSource_recasedSource : ofSource 4 recasedSource = .ok (recasedPreferences, []) := by
  cbv

theorem sparesDefaultVariables_recasedSource : SparesDefaultVariables recasedSource := by
  have hentries : recasedSource.entriesOf sanitizersKey
      = [(sanitizersKey, .table (some tomlName) [(environmentKey, .table (some tomlName) recasedVariables)])] := by
    rfl
  refine sparesDefaultVariables_of_table hentries fun value hvalue => ?_
  cases List.mem_singleton.1 hvalue
  exact ⟨_, _, rfl⟩

theorem writesVariables_recasedSource : WritesVariables recasedSource recasedVariables :=
  ⟨_, _, _, rfl, List.nodup_singleton _, rfl, by decide⟩

/-- The definitions of the file, as texts. -/
def recasedPairs : List (Text × Text) :=
  [("asan_options".toList, "a".toList), ("ASAN_OPTIONS".toList, "b".toList)]

theorem load_recasedFile :
    load 4 (directoryOf recasedFile) [] ".".toList (some tomlName)
      = (.ok recasedPreferences, Source.events (some tomlName) []) := by
  have hread : Source.readChosen (directoryOf recasedFile) []
      (Source.choose? (directoryOf recasedFile) [] ".".toList (some tomlName)) = .ok recasedSource :=
    readChosen_recasedFile
  exact (load_eq_ok_iff hread).2 ⟨[], ofSource_recasedSource, rfl⟩

theorem overtaken_recasedPairs : Overtaken defaultEnvironment recasedPairs "ASAN_OPTIONS".toList :=
  ⟨by decide, "a".toList, by decide, by decide⟩

/-- The two names stand for one variable, and the definition that the file writes first is the one that is loaded;
the variable that the file leaves alone keeps its default. -/
theorem load_lastDefinition_recasedFile :
    Source.readChosen (directoryOf recasedFile) [] (some tomlName) = .ok recasedSource ∧
      load 4 (directoryOf recasedFile) [] ".".toList (some tomlName)
        = (.ok recasedPreferences, Source.events (some tomlName) []) ∧
      Value.toTexts recasedVariables = .ok recasedPairs ∧
      recasedPreferences.environment.get? "ASAN_OPTIONS".toList = some "a".toList ∧
      recasedPreferences.environment.get? "ASAN_OPTIONS".toList
        ≠ (Environment.ofPairs (defaultEnvironment ++ recasedPairs)).get? "ASAN_OPTIONS".toList ∧
      recasedPreferences.environment.get? "UBSAN_OPTIONS".toList
        = (Environment.ofPairs (defaultEnvironment ++ recasedPairs)).get? "UBSAN_OPTIONS".toList := by
  have hread : Source.readChosen (directoryOf recasedFile) []
      (Source.choose? (directoryOf recasedFile) [] ".".toList (some tomlName)) = .ok recasedSource :=
    readChosen_recasedFile
  obtain ⟨base, pairs, -, hwritten, hbase, -, hvalues⟩ := load_lastDefinition hread load_recasedFile
  have htexts : Value.toTexts recasedVariables = .ok recasedPairs := rfl
  obtain rfl : base = defaultEnvironment :=
    hbase.resolve_right fun ⟨_, h⟩ => h sparesDefaultVariables_recasedSource
  obtain rfl : pairs = recasedPairs :=
    Except.ok.inj ((hwritten _ writesVariables_recasedSource).symm.trans htexts)
  refine ⟨readChosen_recasedFile, load_recasedFile, htexts, ?_, ?_, ?_⟩
  · obtain ⟨hvalue, -⟩ := hvalues "ASAN_OPTIONS".toList (by decide)
    exact hvalue
  · obtain ⟨-, -, hiff⟩ := hvalues "ASAN_OPTIONS".toList (by decide)
    exact fun heq => hiff.1 heq overtaken_recasedPairs
  · obtain ⟨-, -, hiff⟩ := hvalues "UBSAN_OPTIONS".toList (by decide)
    refine hiff.2 fun ⟨_, value, hvalue, _⟩ => ?_
    exact nomatch hvalue

/-- **The last definition does not always hold.**  Where it is written like a default variable, an earlier one
that is written otherwise overtakes it. -/
theorem not_load_lastDefinition :
    ¬ ∀ (content : String) (source defined : Fields) (pairs : List (Text × Text)) (preferences : Preferences)
        (events : List Log.Event),
      Source.readChosen (directoryOf content) [] (some tomlName) = .ok source →
      load 4 (directoryOf content) [] ".".toList (some tomlName) = (.ok preferences, events) →
      WritesVariables source defined → Value.toTexts defined = .ok pairs →
      ∀ name, Text.upperAscii name = name →
        preferences.environment.get? name = (lastDefinition? pairs name).or (defaultEnvironment.lookup name) := by
  intro h
  have hlast := h recasedFile recasedSource recasedVariables recasedPairs recasedPreferences _
    readChosen_recasedFile load_recasedFile writesVariables_recasedSource rfl "ASAN_OPTIONS".toList (by decide)
  exact absurd hlast (by decide)

end Loading

end Settings
end TestBench
