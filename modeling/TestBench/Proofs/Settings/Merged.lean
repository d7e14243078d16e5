/-
# Settings over the defaults

However a source is laid over the defaults, no key stands twice in a table of the outcome that is reached
through tables (`Fields.Distinct.addSource`), and each of the two sections stands once, in their order
(`Preferences.exists_hasSections`).  The preferences are read from the two sections and from nothing else
(`Preferences.ofFields_eq_ok_iff`).
-/

import TestBench.Proofs.Settings.Sections

namespace TestBench
namespace Settings

/-- No key stands twice in a table that is reached through tables. -/
structure Fields.Distinct (fields : Fields) : Prop where
  nodup : (fields.map Prod.fst).Nodup
  value : ∀ entry ∈ fields, entry.2.Distinct

namespace Value

theorem distinct_missing : missing.Distinct := .plain none .nothing

theorem Distinct.fields {value : Value} (h : value.Distinct) : Fields.Distinct value.fields := by
  cases h with
  | plain => exact ⟨List.nodup_nil, nofun⟩
  | list => exact ⟨List.nodup_nil, nofun⟩
  | table hkeys h => exact ⟨hkeys, h⟩

end Value

namespace Fields.Distinct

variable {fields : Fields}

theorem lookup (h : fields.Distinct) (key : Text) : ((fields.lookup key).getD .missing).Distinct := by
  cases hlookup : fields.lookup key with
  | none => exact Value.distinct_missing
  | some value => exact h.value _ (Keyed.mem_of_lookup hlookup)

theorem put (h : fields.Distinct) (key : Text) {value : Value} (hvalue : value.Distinct) :
    Fields.Distinct (Keyed.put key value fields) where
  nodup := Keyed.nodup_put h.nodup key value
  value := fun entry hentry => (Keyed.mem_put hentry).elim (fun heq => heq ▸ hvalue) (h.value entry)

end Fields.Distinct

mutual

theorem Value.Distinct.overlay {below : Value} (h : below.Distinct) :
    (above : Value) → (above.overlay below).Distinct
  | .plain origin value => by rw [Value.overlay]; exact .plain origin value
  | .list origin items => by rw [Value.overlay]; exact .list origin items
  | .table _ fields => by
    rw [Value.overlay]
    exact .table (h.fields.overlayFields fields).nodup (h.fields.overlayFields fields).value

theorem Fields.Distinct.overlayFields {below : Fields} (h : below.Distinct) :
    (above : List (Text × Value)) → Fields.Distinct (Value.overlayFields above below)
  | [] => by rwa [Value.overlayFields]
  | (key, value) :: rest => by
    rw [Value.overlayFields]
    exact (h.put key ((h.lookup key).overlay value)).overlayFields rest

end

theorem Value.Distinct.changeAt {value : Value} (h : value.Distinct) (above : Value) (steps : List Step) :
    (value.changeAt above.overlay steps).Distinct := by
  induction steps generalizing value with
  | nil => exact h.overlay above
  | cons step steps ih =>
    cases step with
    | key name =>
      have hfields := h.fields.put name (ih (h.fields.lookup name))
      exact .table hfields.nodup hfields.value
    | item index => exact .list _ _

/-- **No source makes a key stand twice.** -/
theorem Fields.Distinct.addSource {below : Fields} (h : below.Distinct) (source : Fields) :
    (below.addSource source).Distinct := by
  induction source generalizing below with
  | nil => exact h
  | cons entry rest ih => exact ih (h.put _ ((h.lookup _).changeAt entry.2 _))

namespace Preferences

/-- The keys of the sections. -/
def sectionKeys : List Text := [runKey, sanitizersKey]

/-- Settings have each section once, the one on runs first. -/
def HasSections (fields : Fields) (run sanitizers : Value) : Prop :=
  fields.chosen sectionKeys = [(runKey, run), (sanitizersKey, sanitizers)]

/-- The preferences that two sections give. -/
def assembled (run : RunDraft) (sanitizers : SanitizersDraft) : Preferences :=
  { threads := run.threads.getD .processors, timeout := run.timeout, failOnError := run.failOnError
    variantsDir := sanitizers.variantsDir, buildCommand := sanitizers.buildCommand
    environment := .ofPairs sanitizers.definitions }

variable {cpus : Nat} {fields : Fields} {run sanitizers : Value}

theorem HasSections.lookup_run (h : HasSections fields run sanitizers) :
    fields.lookup runKey = some run := by
  have hsection : runKey ∈ sectionKeys := by decide
  rw [← Fields.lookup_chosen hsection, h, List.lookup_cons_self]

theorem HasSections.lookup_sanitizers (h : HasSections fields run sanitizers) :
    fields.lookup sanitizersKey = some sanitizers := by
  have hsection : sanitizersKey ∈ sectionKeys := by decide
  have hne : (sanitizersKey == runKey) = false := by decide
  rw [← Fields.lookup_chosen hsection, h, List.lookup_cons, hne, List.lookup_cons_self]

/-- **The sections keep their places** when a source is laid over them. -/
theorem HasSections.addSource (h : HasSections fields run sanitizers) (source : Fields) :
    ∃ run' sanitizers', HasSections (fields.addSource source) run' sanitizers' := by
  induction source generalizing fields run sanitizers with
  | nil => exact ⟨run, sanitizers, h⟩
  | cons entry rest ih =>
    have hstep : ∃ run' sanitizers', HasSections (fields.addEntry entry.1 entry.2) run' sanitizers' := by
      simp only [HasSections, Fields.addEntry, Fields.chosen_put]
      split_ifs with hsection
      · rw [HasSections] at h
        rw [h]
        rcases List.mem_pair.1 hsection with heq | heq
        · rw [heq]
          exact ⟨_, sanitizers, rfl⟩
        · rw [heq]
          exact ⟨run, _, rfl⟩
      · exact ⟨run, sanitizers, h⟩
    obtain ⟨run', sanitizers', h'⟩ := hstep
    exact ih h'

/-- A section on runs is read slot by slot, and must give the number of binaries. -/
theorem readRun_eq_ok_iff {draft : RunDraft} {unknown : List Text} :
    readRun cpus run = .ok (draft, unknown) ↔
      Section.read runSection (runSlots cpus) { threads := none, timeout := none, failOnError := false } run
          = .ok (draft, unknown) ∧ ∃ threads, draft.threads = some threads := by
  rw [readRun]
  cases Section.read runSection (runSlots cpus)
    { threads := none, timeout := none, failOnError := false } run with
  | error err => exact ⟨nofun, fun h => nomatch h.1⟩
  | ok outcome =>
    obtain ⟨⟨threads, timeout, failOnError⟩, others⟩ := outcome
    cases threads with
    | none =>
      refine ⟨fun h => ?_, fun ⟨heq, _, hthreads⟩ => ?_⟩
      · cases run <;> exact nomatch h
      · cases heq
        exact nomatch hthreads
    | some threads =>
      refine ⟨fun h => ?_, fun h => h.1⟩
      cases h
      exact ⟨rfl, threads, rfl⟩

/-- The defaults over nothing are the defaults. -/
theorem addSource_defaults : Fields.addSource [] defaults = defaults := rfl

theorem exists_hasSections (source : Fields) :
    ∃ run sanitizers, HasSections (Fields.addSource (Fields.addSource [] defaults) source) run sanitizers := by
  have h : HasSections (Fields.addSource [] defaults) _ _ := rfl
  exact h.addSource source

/-- The sections are read one after the other. -/
theorem readFields_sections (h : HasSections fields run sanitizers) (draft : Draft) :
    Section.readFields (sections cpus) fields draft
      = match readRun cpus run with
        | .error err => .error (err.under runKey)
        | .ok (runDraft, runOthers) =>
          match readSanitizers sanitizers with
          | .error err => .error (err.under sanitizersKey)
          | .ok (sanitizersDraft, sanitizersOthers) =>
            .ok ({ run := some runDraft, sanitizers := some sanitizersDraft
                   unknown := draft.unknown ++ qualify runKey runOthers
                    ++ qualify sanitizersKey sanitizersOthers }, fields.others sectionKeys) := by
  have hkeys : (sections cpus).map Slot.key = sectionKeys := rfl
  rw [Section.readFields_eq, hkeys, h, Section.readFields_cons_known rfl]
  dsimp only
  cases readRun cpus run with
  | error err => rfl
  | ok outcome =>
    obtain ⟨runDraft, runOthers⟩ := outcome
    change Except.map _ (Section.readFields (sections cpus) [(sanitizersKey, sanitizers)]
      { draft with run := some runDraft, unknown := draft.unknown ++ qualify runKey runOthers }) = _
    rw [Section.readFields_cons_known rfl]
    dsimp only
    cases readSanitizers sanitizers <;> rfl

/-- **Two sections make the preferences**; what else there is, is named. -/
theorem ofFields_eq_ok_iff (h : HasSections fields run sanitizers) {preferences : Preferences}
    {unknown : List Text} :
    ofFields cpus fields = .ok (preferences, unknown) ↔
      ∃ runDraft runOthers sanitizersDraft sanitizersOthers,
        readRun cpus run = .ok (runDraft, runOthers) ∧
        readSanitizers sanitizers = .ok (sanitizersDraft, sanitizersOthers) ∧
        preferences = assembled runDraft sanitizersDraft ∧
        unknown = Text.sortedSet (qualify runKey runOthers ++ qualify sanitizersKey sanitizersOthers
          ++ fields.others sectionKeys) := by
  rw [ofFields, readFields_sections h]
  cases readRun cpus run with
  | error err => exact ⟨nofun, fun ⟨_, _, _, _, hrun, _⟩ => nomatch hrun⟩
  | ok runOutcome =>
    cases readSanitizers sanitizers with
    | error err => exact ⟨nofun, fun ⟨_, _, _, _, _, hsanitizers, _⟩ => nomatch hsanitizers⟩
    | ok sanitizersOutcome =>
      obtain ⟨runDraft, runOthers⟩ := runOutcome
      obtain ⟨sanitizersDraft, sanitizersOthers⟩ := sanitizersOutcome
      constructor
      · intro heq
        cases heq
        exact ⟨_, _, _, _, rfl, rfl, rfl, rfl⟩
      · rintro ⟨_, _, _, _, hrun, hsanitizers, rfl, rfl⟩
        cases hrun
        cases hsanitizers
        rfl

end Preferences
end Settings
end TestBench
