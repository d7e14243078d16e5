/-
# A limit given on the command line

A limit on the runs is written behind `--timeout`, as an argument of its own or behind an equals sign (`GivesLimit`).
Given at the end of a command line that has none, it changes nothing else:

| command line | is understood as |
| --- | --- |
| as it was | an invocation without a limit |
| with the text of a duration as its limit | the same invocation with that duration (`ofArguments_limit`) |

A `--` at the end of the arguments ends the options, so that the limit stands before it.  The variables that speak for
options know nothing of limits: they can be looked up before or after one is set.
-/

import TestBench.Cli.Dispatch
import TestBench.Proofs.Duration.Written

namespace TestBench
namespace Cli

/-! ### Setting a limit -/

/-- The options with a limit. -/
def Given.withLimit (given : Given) (d : Duration) : Given := { given with timeout := some d }

/-- What all commands do, with a limit. -/
def Common.withLimit (common : Common) (d : Duration) : Common := { common with timeout := some d }

/-- The command with a limit. -/
def Command.withLimit (command : Command) (d : Duration) : Command :=
  match command with
  | run common => run (common.withLimit d)
  | sanitizers common variantsDir buildCommand => sanitizers (common.withLimit d) variantsDir buildCommand

/-- The invocation with a limit. -/
def Invocation.withLimit (invocation : Invocation) (d : Duration) : Invocation :=
  { invocation with command := invocation.command.withLimit d }

/-- The arguments that give a text as the limit. -/
inductive GivesLimit (text : Text) : List Text → Prop
  | apart : GivesLimit text ["--timeout".toList, text]
  | attached : GivesLimit text ["--timeout=".toList ++ text]

theorem Command.ofGiven_withLimit (scope : Scope) (given : Given) (d : Duration) :
    ofGiven scope (given.withLimit d) = (ofGiven scope given).withLimit d := by
  cases scope <;> rfl

theorem Command.timeout_common_ofGiven (scope : Scope) (given : Given) :
    (ofGiven scope given).common.timeout = given.timeout := by
  cases scope <;> rfl

namespace Given

variable {cpus : Nat} {given given' : Given} {opt : Opt} {value : Text} {d : Duration}

theorem has_withLimit (h : opt ≠ .timeout) : (given.withLimit d).has opt = given.has opt := by
  cases opt <;> first | rfl | exact absurd rfl h

/-- Another option is set the same way beside a limit. -/
theorem assign_withLimit (h : opt ≠ .timeout) :
    (given.withLimit d).assign cpus opt value = (given.assign cpus opt value).map (·.withLimit d) := by
  cases opt with
  | timeout => exact absurd rfl h
  | color | threads =>
    unfold assign
    dsimp only
    split <;> rfl
  | help | version | buildDir | pattern | configFile | failOnError | variantsDir | buildCommand => rfl

theorem timeout_of_assign (h : opt ≠ .timeout) (hassign : given.assign cpus opt value = .ok given') :
    given'.timeout = given.timeout := by
  unfold assign at hassign
  cases opt with
  | timeout => exact absurd rfl h
  | color | threads =>
    dsimp only at hassign
    split at hassign
    · cases hassign
      rfl
    · cases hassign
  | help | version => cases hassign
  | buildDir | pattern | configFile | failOnError | variantsDir | buildCommand =>
    cases hassign
    rfl

theorem assignVariable_withLimit {value : Bytes} (h : opt ≠ .timeout) :
    (given.withLimit d).assignVariable cpus opt value
      = (given.assignVariable cpus opt value).map (·.withLimit d) := by
  rw [assignVariable, assignVariable]
  cases Utf8.toText? value with
  | none => rfl
  | some text => exact assign_withLimit h

theorem timeout_of_assignVariable {value : Bytes} (h : opt ≠ .timeout)
    (hassign : given.assignVariable cpus opt value = .ok given') : given'.timeout = given.timeout := by
  rw [assignVariable] at hassign
  cases htext : Utf8.toText? value with
  | none =>
    rw [htext] at hassign
    cases hassign
  | some text =>
    rw [htext] at hassign
    exact timeout_of_assign h hassign

/-- **The text of a duration is taken as a limit**, where there is none. -/
theorem add_write (hd : d.IsValid) (h : given.timeout = none) :
    given.add cpus .timeout d.write = .ok (given.withLimit d) := by
  have hhas : given.has .timeout = false := by rw [has, h]; rfl
  rw [add, hhas, if_neg Bool.false_ne_true, assign, Duration.ofText?_write hd]
  rfl

end Given

section

variable {cpus : Nat} {env : Program.Block} {scope : Scope} {d : Duration}

/-- No variable stands for a limit. -/
theorem ne_timeout_of_valueIn? {opt : Opt} {value : Bytes} (h : opt.valueIn? env = some value) :
    opt ≠ .timeout := by
  rintro rfl
  cases h

/-- The variables are looked up the same way beside a limit. -/
theorem addVariables_withLimit (given : Given) :
    addVariables cpus env scope (given.withLimit d) = (addVariables cpus env scope given).map (·.withLimit d) := by
  unfold addVariables
  generalize Opt.all.filter (Opt.isKnownIn scope) = opts
  induction opts generalizing given with
  | nil => rfl
  | cons opt opts ih =>
    rw [List.foldlM_cons, List.foldlM_cons]
    cases hvalue : opt.valueIn? env with
    | none => exact ih given
    | some value =>
      have hne := ne_timeout_of_valueIn? hvalue
      dsimp only
      rw [Given.has_withLimit hne, Given.assignVariable_withLimit hne]
      split
      · exact ih given
      · cases given.assignVariable cpus opt value with
        | error refusal => rfl
        | ok given => exact ih given

theorem timeout_of_addVariables {given all : Given} (h : addVariables cpus env scope given = .ok all) :
    all.timeout = given.timeout := by
  unfold addVariables at h
  generalize Opt.all.filter (Opt.isKnownIn scope) = opts at h
  induction opts generalizing given with
  | nil =>
    cases h
    rfl
  | cons opt opts ih =>
    rw [List.foldlM_cons] at h
    cases hvalue : opt.valueIn? env with
    | none =>
      rw [hvalue] at h
      exact ih h
    | some value =>
      rw [hvalue] at h
      dsimp only at h
      split at h
      · exact ih h
      · cases hassign : given.assignVariable cpus opt value with
        | error refusal =>
          rw [hassign] at h
          cases h
        | ok given' =>
          rw [hassign] at h
          exact (ih h).trans (Given.timeout_of_assignVariable (ne_timeout_of_valueIn? hvalue) hassign)

/-! ### Reading a limit -/

variable {reading : Reading} {given : Given} {option behind : List Text}

theorem ofLong?_timeout (h : scope ≠ .top) : Opt.ofLong? scope "timeout".toList = some .timeout := by
  cases scope with
  | top => exact absurd rfl h
  | run => decide
  | sanitizers => decide

/-- The text of a duration looks like a word. -/
theorem Shape.ofText_write (d : Duration) : Shape.ofText d.write = .word := by
  obtain ⟨c, rest, hdigit, hwrite⟩ := d.exists_write_eq_cons
  rw [hwrite]
  unfold Shape.ofText
  split
  · next heq => cases heq; cases hdigit
  · next heq => cases heq; cases hdigit
  · next heq => cases heq; cases hdigit
  · rfl

theorem Shape.ofText_attached (text : Text) :
    Shape.ofText ("--timeout=".toList ++ text) = .long "timeout".toList (some text) := by
  rfl

/-- Only a `--` ends the options. -/
theorem eq_escape_of_readOne {argument : Text} (h : readOne cpus scope reading argument = .ok .escapes) :
    argument = "--".toList := by
  have hmap : ∀ result : Except Refusal Reading, result.map Step.goesOn ≠ .ok .escapes := by
    intro result hstep
    cases result <;> cases hstep
  rw [readOne] at h
  dsimp only at h
  split at h
  · next hshape =>
    unfold Shape.ofText at hshape
    split at hshape
    · rfl
    · split at hshape <;> cases hshape
    · cases hshape
    · cases hshape
  · split at h
    · cases h
    · split at h
      · cases h
      · exact absurd h (hmap _)
  · split at h
    · split at h <;> cases h
    · split at h
      · cases h
      · exact absurd h (hmap _)
  · split at h <;> cases h

theorem readCommand_of_goesOn {reading' : Reading} {argument : Text} {rest : List Text}
    (h : readOne cpus scope reading argument = .ok (.goesOn reading')) :
    readCommand cpus env scope reading (argument :: rest) = readCommand cpus env scope reading' rest := by
  rw [readCommand.eq_def]
  dsimp only
  rw [h]

/-- What the first argument of understood ones does: the reading goes on, or the options end with the arguments. -/
theorem readCommand_cons_eq_ok {argument : Text} {rest : List Text} {result : Given × Given}
    (h : readCommand cpus env scope reading (argument :: rest) = .ok result) :
    (∃ reading', readOne cpus scope reading argument = .ok (.goesOn reading')
        ∧ readCommand cpus env scope reading' rest = .ok result)
      ∨ argument = "--".toList ∧ rest = [] ∧ finishCommand cpus env scope reading = .ok result := by
  rw [readCommand.eq_def] at h
  dsimp only at h
  split at h
  · cases h
  · next reading' hone => exact .inl ⟨reading', hone, h⟩
  · next hone =>
    split at h
    · exact .inr ⟨eq_escape_of_readOne hone, rfl, h⟩
    · cases h
  · cases h

/-- What ends the options, if anything does: the end of the arguments, or a last `--`. -/
def EndsOptions (behind : List Text) : Prop := behind = [] ∨ behind = ["--".toList]

theorem readCommand_of_endsOptions (hbehind : EndsOptions behind) :
    readCommand cpus env scope reading behind = finishCommand cpus env scope reading := by
  rcases hbehind with rfl | rfl
  · rw [readCommand]
  · rfl

/-- What a limit does to a reading: settled, it has the limit. -/
theorem readCommand_givesLimit (hscope : scope ≠ .top) (hd : d.IsValid) (hsettle : reading.settle cpus = .ok given)
    (hnone : given.timeout = none) (hoption : GivesLimit d.write option) :
    ∃ reading', reading'.settle cpus = .ok (given.withLimit d)
      ∧ readCommand cpus env scope reading (option ++ behind) = readCommand cpus env scope reading' behind := by
  have hadd : given.add cpus .timeout d.write = .ok (given.withLimit d) := Given.add_write hd hnone
  cases hoption with
  | apart =>
    refine ⟨{ given, pending := some { opt := .timeout, value := some d.write } }, hadd, ?_⟩
    have hname : readOne cpus scope reading "--timeout".toList
        = .ok (.goesOn { given, pending := some { opt := .timeout, value := none } }) := by
      have hshape : Shape.ofText "--timeout".toList = .long "timeout".toList none := by decide
      rw [readOne, hshape]
      dsimp only
      rw [ofLong?_timeout hscope]
      dsimp only
      rw [if_neg (by decide), Reading.takeOption]
      rw [hsettle]
      rfl
    have hvalue : readOne cpus scope { given, pending := some { opt := .timeout, value := none } } d.write
        = .ok (.goesOn { given, pending := some { opt := .timeout, value := some d.write } }) := by
      rw [readOne, Shape.ofText_write]
      rfl
    rw [List.cons_append, List.cons_append, List.nil_append, readCommand_of_goesOn hname, readCommand_of_goesOn hvalue]
  | attached =>
    refine ⟨{ given := given.withLimit d, pending := none }, rfl, ?_⟩
    have hargument : readOne cpus scope reading ("--timeout=".toList ++ d.write)
        = .ok (.goesOn { given := given.withLimit d, pending := none }) := by
      rw [readOne, Shape.ofText_attached]
      dsimp only
      rw [ofLong?_timeout hscope]
      dsimp only
      rw [if_neg (by simp [Opt.takesValue]), Reading.takeOption]
      rw [hsettle]
      dsimp only
      rw [hadd]
      rfl
    rw [List.cons_append, List.nil_append, readCommand_of_goesOn hargument]

/-- At the end of the options the pending one is set and the variables are looked up. -/
theorem finishCommand_eq_ok_iff {own all : Given} :
    finishCommand cpus env scope reading = .ok (own, all)
      ↔ reading.settle cpus = .ok own ∧ addVariables cpus env scope own = .ok all := by
  unfold finishCommand
  cases reading.settle cpus with
  | error refusal => exact ⟨fun h => (by cases h), fun h => (by cases h.1)⟩
  | ok given =>
    dsimp only
    constructor
    · intro h
      cases hvariables : addVariables cpus env scope given with
      | error refusal =>
        rw [hvariables] at h
        cases h
      | ok all' =>
        rw [hvariables] at h
        cases h
        exact ⟨rfl, hvariables⟩
    · rintro ⟨hgiven, hall⟩
      cases hgiven
      rw [hall]
      rfl

/-- Where the options end, a limit is set in both ways of giving it. -/
theorem readCommand_limit_of_finishCommand (hscope : scope ≠ .top) {own all : Given} (hbehind : EndsOptions behind)
    (hnone : own.timeout = none) (hfinish : finishCommand cpus env scope reading = .ok (own, all)) (hd : d.IsValid)
    (hoption : GivesLimit d.write option) :
    readCommand cpus env scope reading (option ++ behind) = .ok (own.withLimit d, all.withLimit d) := by
  obtain ⟨hsettle, hvariables⟩ := finishCommand_eq_ok_iff.1 hfinish
  obtain ⟨reading', hsettle', hread⟩ := readCommand_givesLimit hscope hd hsettle hnone hoption
  have hvariables' : addVariables cpus env scope (own.withLimit d) = .ok (all.withLimit d) := by
    rw [addVariables_withLimit, hvariables]
    rfl
  rw [hread, readCommand_of_endsOptions hbehind]
  exact finishCommand_eq_ok_iff.2 ⟨hsettle', hvariables'⟩

/-- **A limit at the end of the options is set**, and nothing else is. -/
theorem readCommand_limit (hscope : scope ≠ .top) {own all : Given} {arguments : List Text}
    (h : readCommand cpus env scope reading arguments = .ok (own, all)) (hnone : own.timeout = none) :
    ∃ before behind, arguments = before ++ behind ∧ EndsOptions behind
      ∧ ∀ {d : Duration}, d.IsValid → ∀ {option : List Text}, GivesLimit d.write option →
        readCommand cpus env scope reading (before ++ option ++ behind) = .ok (own.withLimit d, all.withLimit d) := by
  induction arguments generalizing reading with
  | nil =>
    rw [readCommand] at h
    refine ⟨[], [], rfl, .inl rfl, fun hd option hoption => ?_⟩
    exact readCommand_limit_of_finishCommand hscope (.inl rfl) hnone h hd hoption
  | cons argument rest ih =>
    rcases readCommand_cons_eq_ok h with ⟨reading', hone, hrest⟩ | ⟨rfl, rfl, hfinish⟩
    · obtain ⟨before, behind, rfl, hbehind, hlimit⟩ := ih hrest
      refine ⟨argument :: before, behind, rfl, hbehind, fun hd option hoption => ?_⟩
      rw [List.cons_append, List.cons_append, readCommand_of_goesOn hone]
      exact hlimit hd hoption
    · refine ⟨[], _, rfl, .inr rfl, fun hd option hoption => ?_⟩
      exact readCommand_limit_of_finishCommand hscope (.inr rfl) hnone hfinish hd hoption

/-! ### The top level -/

theorem Invocation.scopeOf?_ne_top {name : Text} (h : scopeOf? name = some scope) : scope ≠ .top := by
  rintro rfl
  unfold scopeOf? at h
  split at h
  · cases h
  · split at h <;> cases h

/-- What the options of the command and the colours of the top level are put together to. -/
theorem Invocation.combine_eq_ok {own all : Given} {invocation : Invocation}
    (h : combine cpus env reading scope own all = .ok invocation) :
    invocation.command = .ofGiven scope all
      ∧ ∀ d, combine cpus env reading scope (own.withLimit d) (all.withLimit d) = .ok (invocation.withLimit d) := by
  unfold combine at h ⊢
  cases hsettle : reading.settle cpus with
  | error refusal =>
    rw [hsettle] at h
    cases h
  | ok top =>
    rw [hsettle] at h
    dsimp only at h ⊢
    cases hvariables : addVariables cpus env .top top with
    | error refusal =>
      rw [hvariables] at h
      cases h
    | ok all' =>
      rw [hvariables] at h
      cases h
      refine ⟨rfl, fun d => ?_⟩
      dsimp only
      rw [Command.ofGiven_withLimit]
      rfl

/-- The variables that are looked up set no limit. -/
theorem timeout_of_readCommand {own all : Given} {arguments : List Text}
    (h : readCommand cpus env scope reading arguments = .ok (own, all)) : all.timeout = own.timeout := by
  induction arguments generalizing reading with
  | nil =>
    rw [readCommand] at h
    exact timeout_of_addVariables (finishCommand_eq_ok_iff.1 h).2
  | cons argument rest ih =>
    rcases readCommand_cons_eq_ok h with ⟨reading', -, hrest⟩ | ⟨-, -, hfinish⟩
    · exact ih hrest
    · exact timeout_of_addVariables (finishCommand_eq_ok_iff.1 hfinish).2

namespace Invocation

/-- What the first of understood arguments does at the top: it is the command, or the reading goes on. -/
theorem readTop_cons_eq_ok {argument : Text} {rest : List Text} {invocation : Invocation}
    (h : readTop cpus env reading (argument :: rest) = .ok invocation) :
    (∃ scope own all, (if reading.awaiting? = none then scopeOf? argument else none) = some scope
        ∧ readCommand cpus env scope .start rest = .ok (own, all)
        ∧ combine cpus env reading scope own all = .ok invocation)
      ∨ ∃ reading', (∀ rest, readTop cpus env reading (argument :: rest) = readTop cpus env reading' rest)
        ∧ readTop cpus env reading' rest = .ok invocation := by
  rw [readTop.eq_def] at h
  dsimp only at h
  split at h
  · next scope hscope =>
    split at h
    · cases h
    · next own all hread => exact .inl ⟨scope, own, all, hscope, hread, h⟩
  · next hscope =>
    split at h
    · cases h
    · next hhelp =>
      split at h
      · cases h
      · next reading' hone =>
        refine .inr ⟨reading', fun rest => ?_, h⟩
        rw [readTop.eq_def]
        dsimp only
        rw [hscope]
        dsimp only
        rw [if_neg hhelp, hone]
      · split at h <;> cases h
      · cases h

/-- **A limit is set by giving it at the end of the arguments**, to the duration that its text is of, and nothing else
is changed. -/
theorem ofArguments_limit {arguments : List Text} {invocation : Invocation}
    (h : ofArguments cpus env arguments = .ok invocation) (hnone : invocation.command.common.timeout = none) :
    ∃ before behind, arguments = before ++ behind ∧ EndsOptions behind
      ∧ ∀ {d : Duration}, d.IsValid → ∀ {option : List Text}, GivesLimit d.write option →
        ofArguments cpus env (before ++ option ++ behind) = .ok (invocation.withLimit d) := by
  unfold ofArguments at h ⊢
  generalize Reading.start = reading at h ⊢
  induction arguments generalizing reading with
  | nil =>
    rw [readTop] at h
    cases h
  | cons argument rest ih =>
    rcases readTop_cons_eq_ok h with ⟨scope, own, all, hscope, hread, hcombine⟩ | ⟨reading', hgoesOn, hrest⟩
    · obtain ⟨hcommand, hlimit⟩ := combine_eq_ok hcombine
      have hown : own.timeout = none := by
        rw [hcommand, Command.timeout_common_ofGiven, timeout_of_readCommand hread] at hnone
        exact hnone
      have htop : scope ≠ .top := by
        split at hscope
        · exact scopeOf?_ne_top hscope
        · cases hscope
      obtain ⟨before, behind, rfl, hbehind, hoptions⟩ := readCommand_limit htop hread hown
      refine ⟨argument :: before, behind, rfl, hbehind, fun {d} hd option hoption => ?_⟩
      rw [List.cons_append, List.cons_append, readTop.eq_def]
      dsimp only
      rw [hscope]
      dsimp only
      rw [hoptions hd hoption]
      exact hlimit d
    · obtain ⟨before, behind, rfl, hbehind, hlimit⟩ := ih reading' hrest
      refine ⟨argument :: before, behind, rfl, hbehind, fun hd option hoption => ?_⟩
      rw [List.cons_append, List.cons_append, hgoesOn]
      exact hlimit hd hoption

end Invocation

end
end Cli
end TestBench
