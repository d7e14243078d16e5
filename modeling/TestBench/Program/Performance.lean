/-
# What a started program does

A performance is the course of one started program: what it writes to its two outputs and how long it
sleeps in between, in order, and how it ends.
-/

import TestBench.Program.Environment
import TestBench.Program.Recipe
import TestBench.Text.Utf8

namespace TestBench
namespace Program

/-- The two outputs of a program. -/
inductive Stream where
  | out
  | err
  deriving DecidableEq, Repr

/-- One thing that a program does. -/
inductive Act where
  | write (stream : Stream) (chunk : Bytes)
  | sleep (nanoseconds : Nat)
  deriving DecidableEq, Repr

/-- The course of a started program. -/
structure Performance where
  acts : List Act
  exit : Exit
  /-- A child of the program keeps its outputs open when it ends. -/
  keepsOpen : Bool
  deriving DecidableEq, Repr

namespace Act

/-- What an act writes to a stream. -/
def written (stream : Stream) : Act → Bytes
  | write s chunk => if s = stream then chunk else []
  | sleep _ => []

/-- What an act writes, to whatever stream. -/
def output : Act → Bytes
  | write _ chunk => chunk
  | sleep _ => []

/-- How long an act takes. -/
def nanoseconds : Act → Nat
  | write _ _ => 0
  | sleep n => n

end Act

namespace Performance

/-- All that is written to a stream. -/
def written (p : Performance) (stream : Stream) : Bytes := p.acts.flatMap (Act.written stream)

/-- All that is written, in order, to whatever stream. -/
def output (p : Performance) : Bytes := p.acts.flatMap Act.output

/-- How long the program runs. -/
def nanoseconds (p : Performance) : Nat := p.acts.foldl (fun total act => total + act.nanoseconds) 0

end Performance

/-- The acts of the first `limit` nanoseconds. -/
def Act.within : (limit : Nat) → List Act → List Act
  | _, [] => []
  | limit, .write stream chunk :: acts => .write stream chunk :: within limit acts
  | limit, .sleep n :: acts => if limit < n then [.sleep n] else .sleep n :: within (limit - n) acts

namespace Recipe

/-- The line that shows a variable. -/
def showLine (env : Block) (name : Text) : Bytes :=
  Utf8.encode name ++ Block.equalsSign :: (match env.seen? (Utf8.encode name) with
    | some value => value
    | none => Utf8.encode "<unset>".toList) ++ [10]

/-- What a program of this recipe writes before it ends. -/
def writes (recipe : Recipe) (env : Block) : List Act :=
  [.write .out recipe.stdout, .write .err recipe.stderr]
    ++ recipe.shows.map fun name => .write .err (showLine env name)

/-- The course of a program of this recipe. -/
def perform (recipe : Recipe) (env : Block) : Performance :=
  match recipe.ending with
  | .exit code => { acts := recipe.writes env, exit := .ofCode code, keepsOpen := false }
  | .signal signal => { acts := recipe.writes env, exit := .ofSignal signal, keepsOpen := false }
  | .sleep seconds code =>
    { acts := recipe.writes env ++ [.sleep (seconds * 1000000000)], exit := .ofCode code
      keepsOpen := false }
  | .leak => { acts := recipe.writes env, exit := .success, keepsOpen := true }

end Recipe
end Program
end TestBench
