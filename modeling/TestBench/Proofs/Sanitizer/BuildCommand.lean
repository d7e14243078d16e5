/-
# The words of a build command

The name of a variant goes into the words of a build command and cannot change how many there are.

| | words |
| --- | --- |
| the command as it was read | what the reader of command lines makes of it, at least one |
| the command for a variant | the same, each with the placeholder replaced |
| the command as it is shown | read again, those of the command for the variant |

What is shown before a variant is built, and in every failure of it, is the command that is run
(`ofText_keepsShape`).
-/

import Mathlib.Data.List.Forall2
import TestBench.Proofs.Shell.Words
import TestBench.Proofs.Text.Replace
import TestBench.Sanitizer.Build

namespace TestBench
namespace Sanitizer

/-- The command that a failure names. -/
def BuildError.command : BuildError → Text
  | notStarted command _ | failed command _ => command

namespace BuildCommand

/-- A text describes the build command that consists of its words. -/
theorem ofText_eq_ok_iff {command : Text} {build : BuildCommand} :
    ofText command = .ok build ↔ Shell.split? command = some build.words := by
  obtain ⟨program, arguments⟩ := build
  rw [ofText, words]
  cases Shell.split? command with
  | none => simp
  | some parsed =>
    cases parsed with
    | nil => simp
    | cons program' arguments' => simp

theorem placeholder_ne_nil : placeholder ≠ [] := by decide

/-- Each word has its placeholders replaced, and there are as many words as before. -/
theorem forall₂_words_forVariant (build : BuildCommand) (variant : Text) :
    List.Forall₂ (Replaced placeholder variant) build.words (build.forVariant variant).words := by
  have hwords : (build.forVariant variant).words = build.words.map (wordFor variant) := rfl
  rw [hwords, List.forall₂_map_right_iff, List.forall₂_same]
  exact fun word _ => (replaceAll_eq_iff placeholder_ne_nil).1 rfl

/-- The command that is shown has the words of the command. -/
theorem split?_text (build : BuildCommand) : Shell.split? build.text = some build.words :=
  Shell.split?_join build.words

end BuildCommand

namespace Trigger

variable (build : BuildCommand) (host : Host) (variant : Text)

theorem events_ofCommand :
    (ofCommand build host variant).journal.events = [announcement variant (build.forVariant variant).text] := by
  rw [ofCommand]
  split <;> rfl

theorem command_of_result_ofCommand {err : BuildError} (h : (ofCommand build host variant).result = .error err) :
    err.command = (build.forVariant variant).text := by
  rw [ofCommand] at h
  split at h
  · obtain rfl := Except.error.inj h
    rfl
  · dsimp only [resultOf] at h
    split at h
    · exact absurd h nofun
    · obtain rfl := Except.error.inj h
      rfl

variable {build host variant}

theorem result_ofCommand_of_error {cause : SystemError}
    (h : Launch.start host.tree host.here host.environment (build.forVariant variant).program
      (build.forVariant variant).arguments = .error cause) :
    (ofCommand build host variant).result = .error (.notStarted (build.forVariant variant).text cause) := by
  rw [ofCommand, h]

theorem result_ofCommand_of_ok {performance : Program.Performance} {tree : FileTree}
    (h : Launch.start host.tree host.here host.environment (build.forVariant variant).program
      (build.forVariant variant).arguments = .ok (performance, tree)) :
    (ofCommand build host variant).result = resultOf (build.forVariant variant).text performance.exit ∧
      (ofCommand build host variant).tree = tree := by
  rw [ofCommand, h]
  exact ⟨rfl, rfl⟩

end Trigger

namespace BuildCommand

open Trigger (announcement ofCommand resultOf)

/-- **A variant never changes the shape of the build command, and the command shown is the command run.**
The words for a variant are those of the text, at least one, each with every placeholder replaced; and the
text that the log shows and that a failure names is read as these words, the first of which is the program
that is started and the others its arguments. -/
theorem ofText_keepsShape {command : Text} {build : BuildCommand} (h : ofText command = .ok build)
    (variant : Text) :
    ∃ (parsed : List Text) (program : Text) (arguments : List Text) (shown : Text),
      Shell.split? command = some parsed ∧
      (build.forVariant variant).words = program :: arguments ∧
      (program :: arguments).length = parsed.length ∧
      List.Forall₂ (Replaced placeholder variant) parsed (program :: arguments) ∧
      Shell.split? shown = some (program :: arguments) ∧
      ∀ host : Host,
        (ofCommand build host variant).journal.events = [announcement variant shown] ∧
        (∀ err, (ofCommand build host variant).result = .error err → err.command = shown) ∧
        (∀ cause, Launch.start host.tree host.here host.environment program arguments = .error cause →
          (ofCommand build host variant).result = .error (.notStarted shown cause)) ∧
        ∀ performance tree,
          Launch.start host.tree host.here host.environment program arguments = .ok (performance, tree) →
          (ofCommand build host variant).result = resultOf shown performance.exit ∧
            (ofCommand build host variant).tree = tree := by
  have hreplaced := build.forall₂_words_forVariant variant
  refine ⟨build.words, (build.forVariant variant).program, (build.forVariant variant).arguments,
    (build.forVariant variant).text, ofText_eq_ok_iff.1 h, rfl, hreplaced.length_eq.symm, hreplaced,
    (build.forVariant variant).split?_text, fun host => ⟨?_, ?_, ?_, ?_⟩⟩
  · exact Trigger.events_ofCommand build host variant
  · exact fun err => Trigger.command_of_result_ofCommand build host variant
  · exact fun cause => Trigger.result_ofCommand_of_error
  · exact fun performance tree => Trigger.result_ofCommand_of_ok

/-- A command with quotes, a comment sign and the placeholder in several places. -/
def quotedCommand : Text := "make 'V=\x7bvariant\x7d x' \x7bvariant\x7d\x7bvariant\x7d \\#\x7bvar # all".toList

/-- A name with blanks, a quote, a comment sign, a line end and the placeholder. -/
def oddVariant : Text := "a '\x7bvariant\x7d #\n".toList

theorem ofText_quotedCommand : ofText quotedCommand = .ok
    { program := "make".toList
      arguments := ["V=\x7bvariant\x7d x".toList, "\x7bvariant\x7d\x7bvariant\x7d".toList, "#\x7bvar".toList] } := by
  decide +kernel

/-- The words for this variant are read back from the failure of a build. -/
theorem ofText_keepsShape_oddVariant : ∃ (build : BuildCommand) (shown : Text),
    ofText quotedCommand = .ok build ∧
    Shell.split? shown = some ["make".toList, "V=".toList ++ oddVariant ++ " x".toList, oddVariant ++ oddVariant,
      "#\x7bvar".toList] ∧
    (ofCommand build { tree := .empty, here := [], environment := .empty, processors := 1 } oddVariant).result
      = .error (.notStarted shown .notFound) := by
  obtain ⟨-, program, arguments, shown, -, hwords, -, -, hshown, hbuild⟩ :=
    ofText_keepsShape ofText_quotedCommand oddVariant
  have heval := hwords.symm.trans (show _ = ["make".toList, "V=".toList ++ oddVariant ++ " x".toList,
    oddVariant ++ oddVariant, "#\x7bvar".toList] by decide +kernel)
  obtain ⟨-, -, hnotStarted, -⟩ := hbuild { tree := .empty, here := [], environment := .empty, processors := 1 }
  refine ⟨_, shown, ofText_quotedCommand, heval ▸ hshown, hnotStarted _ ?_⟩
  obtain ⟨rfl, rfl⟩ := List.cons.inj heval
  decide +kernel

end BuildCommand
end Sanitizer
end TestBench
