/-
# What a source settles by itself

The preferences over the defaults are told from the settings that the source makes by itself.  These are
its own: where it gives a section once, by its name and as a table, the entries of that table
(`Fields.valueFor?_own`).

| setting | is |
| --- | --- |
| a number of binaries, a limit, a truth, a directory, a command | the source's own entry, converted, or the default if there is none |
| a variable of the default environment that the source does not set | as by default, if no default table is broken |

The first row is `ofSource_followsOwn`.  It holds of all sources that load: a source that breaks the
section on runs loads only if it gives the number of binaries again, and the other defaults are what a
section begins with anyway.  The second row is `ofSource_keepsVariable`; there the tables around the
variable have to stay, since a source that puts a list in their place has the default variables no more.
-/

import TestBench.Proofs.Settings.Layering
import TestBench.Proofs.Settings.Merged

namespace TestBench
namespace Settings

/-- The settings that a source makes by itself. -/
def Fields.own (source : Fields) : Fields := Fields.addSource [] source

/-- What the fields have for a key of a section. -/
def Fields.valueFor? (fields : Fields) (section_ key : Text) (place : Nat) : Option Value :=
  (fields.lookup section_).bind fun whole => whole.valueFor? key place

/-- Where a source gives a section once, by its name and as a table, the source's own entries are those of
the table. -/
theorem Fields.valueFor?_own {source fields : Fields} {section_ : Text} {origin : Option Text}
    (hentries : source.entriesOf section_ = [(section_, .table origin fields)])
    (hsteps : (KeyPath.ofKey section_).steps = []) (hkeys : (fields.map Prod.fst).Nodup) (key : Text)
    (place : Nat) :
    source.own.valueFor? section_ key place = (fields.lookup key).map fun value => value.overlay .missing := by
  have hmem : (section_, Value.table origin fields) ∈ source.entriesOf section_ := by
    rw [hentries]
    exact List.mem_singleton_self _
  have hroot := (mem_entriesOf_iff.1 hmem).2
  rw [valueFor?, own, lookup_addSource_entriesOf source rfl, hentries]
  change ((Fields.addEntry [] section_ (.table origin fields)).lookup section_).bind _ = _
  rw [lookup_addEntry, if_pos hroot.symm, hsteps, List.lookup_nil, Value.changeAt, Value.overlay]
  change (Value.overlayFields fields []).lookup key = _
  rw [Value.lookup_overlayFields hkeys]
  cases fields.lookup key <;> rfl

namespace Value

variable {keep : Bool} {byDefault own outcome : Option Value}

namespace Layered

/-- The outcome is the source's own value or the default one, or both the source and the outcome have a
table. -/
theorem eq_or_tables (h : Layered keep byDefault own outcome) :
    own = outcome ∨ (own = none ∧ outcome = byDefault) ∨
      ∃ origin fields origin' fields', own = some (table origin fields) ∧
        outcome = some (table origin' fields') := by
  cases h with
  | untouched => exact .inr (.inl ⟨rfl, rfl⟩)
  | replaced => exact .inl rfl
  | merged => exact .inr (.inr ⟨_, _, _, _, rfl, rfl⟩)
  | lost => exact .inl rfl

/-- The same of the entries for a key of a section. -/
theorem valueFor?_eq_or_tables {whole : Value} (h : Layered keep byDefault own (some whole)) (key : Text)
    (place : Nat) :
    (own.bind fun whole => whole.valueFor? key place) = whole.valueFor? key place ∨
      ((own.bind fun whole => whole.valueFor? key place) = none ∧
        whole.valueFor? key place = (fieldsOf byDefault).lookup key) ∨
      ∃ origin fields origin' fields',
        (own.bind fun whole => whole.valueFor? key place) = some (table origin fields) ∧
          whole.valueFor? key place = some (table origin' fields') := by
  cases h with
  | untouched h =>
    refine .inr (.inl ⟨rfl, ?_⟩)
    cases h whole rfl with
    | plain => rfl
    | table => rfl
  | replaced => exact .inl rfl
  | merged h =>
    rcases (h key).eq_or_tables with h | ⟨hown, h⟩ | h
    · exact .inl h
    · exact .inr (.inl ⟨hown, h⟩)
    · exact .inr (.inr h)

/-- **A setting that is settled by the outcome is settled by the source**, where nothing converts from a
table and the default entry converts to the default setting. -/
theorem settled {α : Type} {read : Value → Except ReadError α} {setting default_ : α} {whole : Value}
    {key : Text} {place : Nat} (h : Layered keep byDefault own (some whole))
    (htable : ∀ origin fields, read (table origin fields) ≠ .ok setting)
    (hdefault : ∀ value ∈ (fieldsOf byDefault).lookup key, read value = .ok default_)
    (hsettled : Settled read default_ (whole.valueFor? key place) setting) :
    Settled read default_ (own.bind fun whole => whole.valueFor? key place) setting := by
  rcases h.valueFor?_eq_or_tables key place with heq | ⟨hown, heq⟩ | ⟨_, _, origin, fields, -, heq⟩
  · rwa [heq]
  · rw [hown]
    cases hlookup : (fieldsOf byDefault).lookup key with
    | none =>
      rw [heq, hlookup] at hsettled
      exact hsettled
    | some value =>
      rw [heq, hlookup] at hsettled
      have hread : read value = .ok setting := hsettled
      rw [hdefault value hlookup] at hread
      exact (Except.ok.inj hread).symm
  · -- Both have a table, and then the outcome settles nothing.
    rw [heq] at hsettled
    exact absurd hsettled (htable origin fields)

/-- Where all default tables are kept, what the source leaves alone is as it is by default. -/
theorem eq_of_own_none (h : Layered true byDefault none outcome) : outcome = byDefault := by
  cases h with
  | untouched => rfl
  | lost hkeep => exact nomatch hkeep

/-- Where all default tables are kept, a default table with fields stays a table. -/
theorem exists_table (h : Layered true byDefault own outcome) (hfields : fieldsOf byDefault ≠ []) :
    ∃ origin fields, outcome = some (table origin fields) := by
  cases h with
  | untouched =>
    rcases byDefault with _ | ⟨_⟩ | ⟨_⟩ | ⟨origin, fields⟩
    · exact absurd rfl hfields
    · exact absurd rfl hfields
    · exact absurd rfl hfields
    · exact ⟨origin, fields, rfl⟩
  | replaced hvalue hkeep => exact absurd (hkeep rfl) hfields
  | merged => exact ⟨_, _, rfl⟩
  | lost hkeep => exact nomatch hkeep

end Layered

/-- The definitions are the fields with their texts. -/
theorem mem_toTexts_iff {fields : Fields} {texts : List (Text × Text)} (h : toTexts fields = .ok texts)
    {pair : Text × Text} :
    pair ∈ texts ↔ ∃ value, (pair.1, value) ∈ fields ∧ value.toText = .ok pair.2 := by
  induction fields generalizing texts with
  | nil =>
    cases h
    simp
  | cons entry rest ih =>
    obtain ⟨key, value⟩ := entry
    rw [toTexts] at h
    cases htext : value.toText with
    | error err => rw [htext] at h; exact nomatch h
    | ok text =>
      cases hrest : toTexts rest with
      | error err => rw [htext, hrest] at h; exact nomatch h
      | ok more =>
        rw [htext, hrest] at h
        cases h
        obtain ⟨name, content⟩ := pair
        rw [List.mem_cons, ih hrest]
        constructor
        · rintro (heq | ⟨found, hfound, hcontent⟩)
          · cases heq
            exact ⟨value, List.mem_cons_self, htext⟩
          · exact ⟨found, List.mem_cons_of_mem _ hfound, hcontent⟩
        · rintro ⟨found, hfound, hcontent⟩
          rcases List.mem_cons.1 hfound with heq | hfound
          · cases heq
            rw [htext] at hcontent
            cases hcontent
            exact .inl rfl
          · exact .inr ⟨found, hfound, hcontent⟩

end Value

/-- A variable keeps its value through definitions of the same value, and takes it from one of them. -/
theorem get?_foldl_set {pairs : List (Text × Text)} {name value : Text}
    (hall : ∀ pair ∈ pairs, Text.upperAscii pair.1 = name → pair.2 = value)
    {env : Program.Environment}
    (h : env.get? name = some value ∨ ∃ pair ∈ pairs, Text.upperAscii pair.1 = name) :
    (pairs.foldl (fun env (pair : Text × Text) => env.set (Text.upperAscii pair.1) pair.2) env).get? name
      = some value := by
  induction pairs generalizing env with
  | nil => exact h.resolve_right fun ⟨_, hmem, _⟩ => nomatch hmem
  | cons pair rest ih =>
    refine ih (fun pair hpair => hall pair (List.mem_cons_of_mem _ hpair)) ?_
    rw [Program.Variables.get?_set]
    by_cases hname : name = Text.upperAscii pair.1
    · rw [if_pos hname, hall pair List.mem_cons_self hname.symm]
      exact .inl rfl
    · rw [if_neg hname]
      refine h.imp_right fun ⟨other, hother, heq⟩ => ⟨other, ?_, heq⟩
      exact (List.mem_cons.1 hother).resolve_left fun hfirst => hname (hfirst ▸ heq).symm

namespace Preferences

/-- Each setting is the converted entry of `own`, or the default if `own` has no entry for it. -/
structure FollowsOwn (cpus : Nat) (own : Fields) (preferences : Preferences) : Prop where
  threads : Settled (Value.toThreads cpus) .processors (own.valueFor? runKey threadsKey 0) preferences.threads
  timeout : Settled (Value.toOption Value.toDuration) none (own.valueFor? runKey timeoutKey 1)
    preferences.timeout
  failOnError : Settled Value.toBool false (own.valueFor? runKey failOnErrorKey 2) preferences.failOnError
  variantsDir : Settled (Value.toOption Value.toText) none (own.valueFor? sanitizersKey variantsDirKey 0)
    preferences.variantsDir
  buildCommand : Settled (Value.toOption Value.toText) none (own.valueFor? sanitizersKey buildCommandKey 1)
    preferences.buildCommand

variable {cpus : Nat} {whole : Value} {unknown : List Text}

theorem nodup_runSlots (cpus : Nat) : ((runSlots cpus).map Slot.key).Nodup := by
  change [threadsKey, timeoutKey, failOnErrorKey].Nodup
  decide

/-- What the slots of a section on runs settle. -/
theorem runSlots_settled {draft : RunDraft} (hdistinct : whole.Distinct)
    (hread : Section.read runSection (runSlots cpus) { threads := none, timeout := none, failOnError := false } whole
      = .ok (draft, unknown)) :
    Settled (fun value => (Value.toThreads cpus value).map some) none (whole.valueFor? threadsKey 0)
        draft.threads ∧
      Settled (Value.toOption Value.toDuration) none (whole.valueFor? timeoutKey 1) draft.timeout ∧
      Settled Value.toBool false (whole.valueFor? failOnErrorKey 2) draft.failOnError := by
  have hkeys := nodup_runSlots cpus
  refine ⟨Section.read_slot hkeys rfl (Slot.stores_of fun value a _ hvalue => ?_) ?_ hdistinct hread,
    Section.read_slot hkeys rfl (Slot.stores_of fun _ _ _ => id) ?_ hdistinct hread,
    Section.read_slot hkeys rfl (Slot.stores_of fun _ _ _ => id) ?_ hdistinct hread⟩
  · exact congrArg (Except.map some) hvalue
  all_goals simp only [runSlots, List.forall_mem_cons]
  · exact ⟨fun hne => absurd rfl hne, fun _ => Slot.leaves_of fun _ _ => rfl,
      fun _ => Slot.leaves_of fun _ _ => rfl, nofun⟩
  · exact ⟨fun _ => Slot.leaves_of fun _ _ => rfl, fun hne => absurd rfl hne,
      fun _ => Slot.leaves_of fun _ _ => rfl, nofun⟩
  · exact ⟨fun _ => Slot.leaves_of fun _ _ => rfl, fun _ => Slot.leaves_of fun _ _ => rfl,
      fun hne => absurd rfl hne, nofun⟩

/-- What a section on runs settles. -/
theorem readRun_settled {draft : RunDraft} (hdistinct : whole.Distinct)
    (h : readRun cpus whole = .ok (draft, unknown)) :
    Settled (fun value => (Value.toThreads cpus value).map some) none (whole.valueFor? threadsKey 0)
        draft.threads ∧
      Settled (Value.toOption Value.toDuration) none (whole.valueFor? timeoutKey 1) draft.timeout ∧
      Settled Value.toBool false (whole.valueFor? failOnErrorKey 2) draft.failOnError :=
  runSlots_settled hdistinct (readRun_eq_ok_iff.1 h).1

/-- A number of binaries that is given comes from an entry. -/
theorem settled_of_given {entry : Option Value} {given : Option Threads} {threads : Threads}
    (h : Settled (fun value => (Value.toThreads cpus value).map some) none entry given)
    (hgiven : given = some threads) :
    Settled (Value.toThreads cpus) .processors entry (given.getD .processors) := by
  subst hgiven
  cases entry with
  | none => exact nomatch h
  | some value =>
    change (Value.toThreads cpus value).map some = .ok (some threads) at h
    cases hread : Value.toThreads cpus value with
    | error err => rw [hread] at h; exact nomatch h
    | ok found =>
      rw [hread] at h
      cases h
      exact hread

/-- What a section on sanitizers settles. -/
theorem readSanitizers_settled {draft : SanitizersDraft} (hdistinct : whole.Distinct)
    (h : readSanitizers whole = .ok (draft, unknown)) :
    Settled (Value.toOption Value.toText) none (whole.valueFor? variantsDirKey 0) draft.variantsDir ∧
      Settled (Value.toOption Value.toText) none (whole.valueFor? buildCommandKey 1) draft.buildCommand ∧
      Settled Value.toDefinitions [] (whole.valueFor? environmentKey 2) draft.definitions := by
  have hkeys : (sanitizersSlots.map Slot.key).Nodup := by
    change [variantsDirKey, buildCommandKey, environmentKey].Nodup
    decide
  refine ⟨Section.read_slot hkeys rfl (Slot.stores_of fun _ _ _ => id) ?_ hdistinct h,
    Section.read_slot hkeys rfl (Slot.stores_of fun _ _ _ => id) ?_ hdistinct h,
    Section.read_slot hkeys rfl (Slot.stores_of fun _ _ _ => id) ?_ hdistinct h⟩
  all_goals simp only [sanitizersSlots, List.forall_mem_cons]
  · exact ⟨fun hne => absurd rfl hne, fun _ => Slot.leaves_of fun _ _ => rfl,
      fun _ => Slot.leaves_of fun _ _ => rfl, nofun⟩
  · exact ⟨fun _ => Slot.leaves_of fun _ _ => rfl, fun hne => absurd rfl hne,
      fun _ => Slot.leaves_of fun _ _ => rfl, nofun⟩
  · exact ⟨fun _ => Slot.leaves_of fun _ _ => rfl, fun _ => Slot.leaves_of fun _ _ => rfl,
      fun hne => absurd rfl hne, nofun⟩

/-- No default is a list. -/
theorem listless_defaults : ∀ entry ∈ defaults, entry.2.Listless := by
  have hplain : ∀ (origin : Option Text) (fields : Fields),
      (∀ entry ∈ fields, entry.2.Listless) → (Value.table origin fields).Listless := fun _ _ h =>
    .table fun _ _ hlookup => h _ (Keyed.mem_of_lookup hlookup)
  simp only [defaults, List.forall_mem_cons]
  refine ⟨hplain _ _ ?_, hplain _ _ ?_, nofun⟩
  · simp only [List.forall_mem_cons]
    exact ⟨.plain _ _, .plain _ _, nofun⟩
  · simp only [List.forall_mem_cons]
    refine ⟨hplain _ _ fun entry hentry => ?_, nofun⟩
    obtain ⟨pair, -, rfl⟩ := List.mem_map.1 hentry
    exact .plain _ _

/-- No key stands twice in the defaults. -/
theorem distinct_defaults : Fields.Distinct defaults := by
  have h : Fields.Distinct [] := ⟨List.nodup_nil, nofun⟩
  exact addSource_defaults ▸ h.addSource defaults

/-- What a source makes by itself and what it makes over the defaults. -/
theorem layered_own {keep : Bool} (source : Fields) (name : Text)
    (hspares : keep = true → ∀ entry ∈ source.entriesOf name,
      Value.SparesAt entry.2 (defaults.lookup name) (KeyPath.ofKey entry.1).steps) :
    Value.Layered keep (defaults.lookup name) (source.own.lookup name)
      ((Fields.addSource (Fields.addSource [] defaults) source).lookup name) := by
  rw [addSource_defaults]
  refine Value.Layered.addSource ?_ source hspares
  exact .untouched fun value hvalue => listless_defaults _ (Keyed.mem_of_lookup hvalue)

/-- No key stands twice in the settings over the defaults. -/
theorem distinct_over_defaults (source : Fields) :
    (Fields.addSource (Fields.addSource [] defaults) source).Distinct :=
  (addSource_defaults ▸ distinct_defaults : (Fields.addSource [] defaults).Distinct).addSource source

/-- **Every setting is the source's own, converted, or the default.** -/
theorem ofSource_followsOwn {source : Fields} {preferences : Preferences}
    (h : ofSource cpus source = .ok (preferences, unknown)) :
    preferences.FollowsOwn cpus source.own := by
  obtain ⟨run, sanitizers, hsections⟩ := exists_hasSections source
  obtain ⟨runDraft, _, sanitizersDraft, _, hrun, hsanitizers, rfl, -⟩ :=
    (ofFields_eq_ok_iff hsections).1 h
  have hdistinct := distinct_over_defaults source
  have hrunLayered : Value.Layered false _ _ _ := layered_own source runKey nofun
  have hsanitizersLayered : Value.Layered false _ _ _ := layered_own source sanitizersKey nofun
  rw [hsections.lookup_run] at hrunLayered
  rw [hsections.lookup_sanitizers] at hsanitizersLayered
  have hrunDistinct := hdistinct.value _ (Keyed.mem_of_lookup hsections.lookup_run)
  have hsanitizersDistinct := hdistinct.value _ (Keyed.mem_of_lookup hsections.lookup_sanitizers)
  obtain ⟨hthreads, htimeout, hfailOnError⟩ := readRun_settled hrunDistinct hrun
  obtain ⟨hvariantsDir, hbuildCommand, -⟩ := readSanitizers_settled hsanitizersDistinct hsanitizers
  obtain ⟨-, threads, hgiven⟩ := readRun_eq_ok_iff.1 hrun
  constructor
  · refine hrunLayered.settled nofun (fun value hvalue => ?_) (settled_of_given hthreads hgiven)
    have hword : some (textValue Threads.processorsWord) = some value := hvalue
    rw [← Option.some.inj hword]
    rfl
  · exact hrunLayered.settled nofun nofun htimeout
  · refine hrunLayered.settled nofun (fun value hvalue => ?_) hfailOnError
    have hfalse : some (Value.plain none (.boolean false)) = some value := hvalue
    rw [← Option.some.inj hfalse]
    rfl
  · exact hsanitizersLayered.settled nofun nofun hvariantsDir
  · exact hsanitizersLayered.settled nofun nofun hbuildCommand

/-- The variables that the settings define, under the names as they are given. -/
def definedVariables (settings : Fields) : Fields :=
  Value.fieldsOf ((Value.fieldsOf (settings.lookup sanitizersKey)).lookup environmentKey)

/-- Wherever the source gives the section on sanitizers or its environment, it gives a table. -/
def SparesDefaultVariables (source : Fields) : Prop :=
  ∀ entry ∈ source.entriesOf sanitizersKey,
    Value.SparesAt entry.2 (defaults.lookup sanitizersKey) (KeyPath.ofKey entry.1).steps

theorem definedVariables_defaults :
    definedVariables defaults = defaultEnvironment.map fun (name, value) => (name, textValue value) := rfl

/-- A source that gives the section once, by its name and as a table with no other environment than tables,
spares the default variables. -/
theorem sparesDefaultVariables_of_table {source fields : Fields} {origin : Option Text}
    (hentries : source.entriesOf sanitizersKey = [(sanitizersKey, .table origin fields)])
    (henvironment : ∀ value, (environmentKey, value) ∈ fields → ∃ origin fields, value = .table origin fields) :
    SparesDefaultVariables source := by
  rw [SparesDefaultVariables, hentries, List.forall_mem_singleton]
  refine .table fun entry hentry => ?_
  obtain ⟨key, value⟩ := entry
  by_cases hkey : key = environmentKey
  · subst hkey
    obtain ⟨origin', variables', rfl⟩ := henvironment value hentry
    refine .table fun variable_ _ => .bare ?_
    change Value.fieldsOf ((definedVariables defaults).lookup variable_.1) = []
    cases hlookup : (definedVariables defaults).lookup variable_.1 with
    | none => rfl
    | some found =>
      have hmem := definedVariables_defaults ▸ Keyed.mem_of_lookup hlookup
      obtain ⟨pair, -, heq⟩ := List.mem_map.1 hmem
      rw [← (Prod.mk.inj heq).2]
      rfl
  · have hother : (key == environmentKey) = false := beq_eq_false_iff_ne.2 hkey
    change Value.Spares ([(environmentKey, _)].lookup key) value
    rw [List.lookup_cons, hother]
    exact .bare rfl

/-- The default variables are called by capitals. -/
theorem upperAscii_of_mem_defaultEnvironment :
    ∀ pair ∈ defaultEnvironment, Text.upperAscii pair.1 = pair.1 := by decide

/-- Each default variable stands once among the defaults, whatever the case. -/
theorem eq_of_mem_definedVariables_defaults {key name value : Text} {found : Value}
    (hfound : (key, found) ∈ definedVariables defaults) (hkey : Text.upperAscii key = name)
    (hdefault : (name, value) ∈ defaultEnvironment) : found = textValue value := by
  have hnodup : (defaultEnvironment.map Prod.fst).Nodup := by decide
  obtain ⟨pair, hpair, heq⟩ := List.mem_map.1 (definedVariables_defaults ▸ hfound)
  cases heq
  rw [upperAscii_of_mem_defaultEnvironment pair hpair] at hkey
  subst hkey
  have hsame := (Keyed.lookup_of_mem hnodup hpair).symm.trans (Keyed.lookup_of_mem hnodup hdefault)
  rw [Option.some.inj hsame]

/-- **A default variable that the source does not set keeps its value**, if the source gives the section on
sanitizers and its environment as tables wherever it gives them. -/
theorem ofSource_keepsVariable {source : Fields} {preferences : Preferences}
    (h : ofSource cpus source = .ok (preferences, unknown))
    (hspares : SparesDefaultVariables source)
    {name value : Text} (hdefault : (name, value) ∈ defaultEnvironment)
    (hfree : ∀ entry ∈ definedVariables source.own, Text.upperAscii entry.1 ≠ name) :
    preferences.environment.get? name = some value := by
  obtain ⟨run, sanitizers, hsections⟩ := exists_hasSections source
  obtain ⟨_, _, draft, _, -, hsanitizers, rfl, -⟩ := (ofFields_eq_ok_iff hsections).1 h
  have hdistinct := (distinct_over_defaults source).value _ (Keyed.mem_of_lookup hsections.lookup_sanitizers)
  have hlayered : Value.Layered true _ _ _ := layered_own source sanitizersKey fun _ => hspares
  rw [hsections.lookup_sanitizers] at hlayered
  obtain ⟨origin, fields, heq⟩ := hlayered.exists_table (List.cons_ne_nil _ _)
  cases heq
  obtain ⟨origin', outcome, houtcome⟩ :=
    (hlayered.fields environmentKey).exists_table (List.cons_ne_nil _ _)
  have houtcome' : fields.lookup environmentKey = some (.table origin' outcome) := houtcome
  -- Under the variable's name, in any case, the outcome is the default environment.
  have hkept : ∀ key, Text.upperAscii key = name →
      outcome.lookup key = (definedVariables defaults).lookup key := by
    intro key hkey
    have hnone : (definedVariables source.own).lookup key = none := List.lookup_eq_none_iff.2
      fun entry hentry => bne_iff_ne.2 fun heq => hfree entry hentry (heq ▸ hkey)
    have hvariable := (hlayered.fields environmentKey).fields key
    rw [houtcome] at hvariable
    change Value.Layered true _ ((definedVariables source.own).lookup key) (outcome.lookup key) at hvariable
    rw [hnone] at hvariable
    exact hvariable.eq_of_own_none
  have htexts : Value.toTexts outcome = .ok draft.definitions := by
    have hsettled := (readSanitizers_settled hdistinct hsanitizers).2.2
    rw [Value.valueFor?, houtcome'] at hsettled
    exact hsettled
  have hnodup : (outcome.map Prod.fst).Nodup := by
    have hwhole := (hdistinct.fields.lookup environmentKey).fields.nodup
    rw [Value.fields, houtcome'] at hwhole
    exact hwhole
  have hcapitals := upperAscii_of_mem_defaultEnvironment _ hdefault
  refine get?_foldl_set (fun pair hpair hname => ?_) (.inr ⟨(name, value), ?_, hcapitals⟩)
  · obtain ⟨found, hfound, htext⟩ := (Value.mem_toTexts_iff htexts).1 hpair
    have hlookup := (hkept _ hname).symm.trans (Keyed.lookup_of_mem hnodup hfound)
    rw [eq_of_mem_definedVariables_defaults (Keyed.mem_of_lookup hlookup) hname hdefault] at htext
    exact (Except.ok.inj htext).symm
  · have hmem : (name, textValue value) ∈ definedVariables defaults :=
      definedVariables_defaults ▸ List.mem_map_of_mem hdefault
    have hlookup := (hkept name hcapitals).trans (Keyed.lookup_of_mem (by decide) hmem)
    exact (Value.mem_toTexts_iff htexts).2 ⟨_, Keyed.mem_of_lookup hlookup, rfl⟩

end Preferences
end Settings
end TestBench
