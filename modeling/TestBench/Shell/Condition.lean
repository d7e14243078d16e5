/-
# Conditions

What the command `test` makes of its arguments.

| operator | holds |
| --- | --- |
| `-n s`, `-z s`, `s` | the text is not empty, empty, not empty |
| `a = b`, `a != b` | the texts are equal, different |
| `a -eq b`, `-ne`, `-lt`, `-le`, `-gt`, `-ge` | the numbers compare so |
| `-e p`, `-f p`, `-d p`, `-x p`, `-s p` | the path leads to something, a file, a directory, something executable, a file that is not empty |
| `!`, `-a`, `-o`, parentheses | the usual connectives |

With three arguments of which the second is a binary operator, the others are operands whatever they
look like.  An argument is taken for a unary operator only if an operand follows it.
-/

import TestBench.FileTree.Resolve

namespace TestBench
namespace Shell

/-- What arguments cannot be made sense of. -/
inductive ConditionFault where
  | unexpectedOperator (argument : Text)
  | argumentExpected (operator : Text)
  | closingExpected
  | illegalNumber (argument : Text)
  deriving DecidableEq, Repr

/-- What is said of arguments that make no sense. -/
def ConditionFault.message : ConditionFault → Text
  | unexpectedOperator argument =>
    if argument = [] then "unexpected operator".toList
    else argument ++ ": unexpected operator".toList
  | argumentExpected operator => operator ++ ": argument expected".toList
  | closingExpected => "closing paren expected".toList
  | illegalNumber argument => "Illegal number: ".toList ++ argument

/-- The kinds of operators. -/
inductive OperatorKind where
  | unary
  | binary
  | negation
  | conjunction
  | disjunction
  | opening
  | closing
  deriving DecidableEq, Repr

/-- The operators with one operand. -/
def unaryOperators : List Text :=
  ["-n", "-z", "-e", "-f", "-d", "-x", "-r", "-w", "-s"].map String.toList

/-- The operators between two operands. -/
def binaryOperators : List Text :=
  ["=", "!=", "<", ">", "-eq", "-ne", "-lt", "-le", "-gt", "-ge"].map String.toList

/-- The operator that an argument is. -/
def operatorKind? (argument : Text) : Option OperatorKind :=
  if unaryOperators.contains argument then some .unary
  else if binaryOperators.contains argument then some .binary
  else if argument = "!".toList then some .negation
  else if argument = "-a".toList then some .conjunction
  else if argument = "-o".toList then some .disjunction
  else if argument = "(".toList then some .opening
  else if argument = ")".toList then some .closing
  else none

namespace Condition

/-- The directory and the tree that paths are looked up in. -/
structure Place where
  tree : FileTree
  here : Location

/-- The argument at a position is an operand although it looks like a unary operator. -/
def isOperand (args : List Text) (i : Nat) : Bool :=
  match args[i + 1]?, args[i + 2]? with
  | none, _ => true
  | some _, none => false
  | some next, some _ => operatorKind? next = some .binary

/-- How the argument at a position is read: nothing beyond the last, and no kind for an operand. -/
def kindAt (args : List Text) (i : Nat) : Option (Option OperatorKind) :=
  args[i]?.map fun argument =>
    match operatorKind? argument with
    | some .unary => if isOperand args i then none else some .unary
    | some .opening => if args[i + 1]?.isNone then none else some .opening
    | kind => kind

/-- A whole number. -/
def number? (argument : Text) : Except ConditionFault Int :=
  match Decimal.readInt? argument with
  | some n => .ok n
  | none => .error (.illegalNumber argument)

/-- A condition with one operand. -/
def unary (place : Place) (operator operand : Text) : Bool :=
  let path := Utf8.encode operand
  let entry? := (place.tree.resolveEntry place.here path).toOption
  if operator = "-n".toList then operand != []
  else if operator = "-z".toList then operand = []
  else if operator = "-f".toList then place.tree.isFile place.here path
  else if operator = "-d".toList then entry? = some .directory
  else if operator = "-x".toList then
    match place.tree.resolve place.here path with
    | .ok location =>
      if entry? = some .directory then place.tree.isSearchable location
      else place.tree.isExecutable place.here path
    | .error _ => false
  else if operator = "-s".toList then
    match entry? with
    | some (.file (.bytes b) _) => b != []
    | some _ => true
    | none => false
  else entry?.isSome

/-- A comparison of numbers. -/
def compare (operator : Text) (a b : Int) : Bool :=
  if operator = "-eq".toList then a = b
  else if operator = "-ne".toList then a ≠ b
  else if operator = "-lt".toList then a < b
  else if operator = "-le".toList then a ≤ b
  else if operator = "-gt".toList then a > b
  else a ≥ b

/-- A condition with two operands. -/
def binary (operator a b : Text) : Except ConditionFault Bool :=
  if operator = "=".toList then .ok (a = b)
  else if operator = "!=".toList then .ok (a ≠ b)
  else if operator = "<".toList then .ok (a < b)
  else if operator = ">".toList then .ok (b < a)
  else
    match number? a, number? b with
    | .ok m, .ok n => .ok (compare operator m n)
    | .error fault, _ => .error fault
    | _, .error fault => .error fault

/-- A result and the position of the last argument that it used. -/
abbrev Reading := Except ConditionFault (Bool × Nat)

/-- A condition without connectives, whose first argument was read as `kind`.  `inner` reads a condition
in parentheses. -/
def primary (place : Place) (inner : Nat → Reading) (args : List Text) (i : Nat)
    (kind : Option (Option OperatorKind)) : Reading :=
  match kind with
  | none => .ok (false, i)
  | some (some .opening) =>
    if kindAt args (i + 1) = some (some .closing) then .ok (false, i + 1)
    else
      match inner (i + 1) with
      | .error fault => .error fault
      | .ok (result, last) =>
        if kindAt args (last + 1) = some (some .closing) then .ok (result, last + 1)
        else .error .closingExpected
  | some (some .unary) =>
    match args[i]?, args[i + 1]? with
    | some operator, some operand => .ok (unary place operator operand, i + 1)
    | operator?, _ => .error (.argumentExpected (operator?.getD []))
  | some _ =>
    match kindAt args (i + 1), args[i]?, args[i + 1]?, args[i + 2]? with
    | some (some .binary), some a, some operator, some b =>
      (binary operator a b).map fun result => (result, i + 2)
    | some (some .binary), _, operator?, _ => .error (.argumentExpected (operator?.getD []))
    | _, argument?, _, _ => .ok (argument? ≠ some [], i)

/-- A condition with any number of negations in front. -/
def negated (place : Place) (inner : Nat → Reading) (args : List Text) :
    (steps : Nat) → (i : Nat) → (kind : Option (Option OperatorKind)) → Reading
  | 0, i, kind => primary place inner args i kind
  | steps + 1, i, kind =>
    if kind = some (some .negation) then
      let next := kindAt args (i + 1)
      (negated place inner args steps (if next.isNone then i else i + 1) next).map
        fun (result, last) => (!result, last)
    else primary place inner args i kind

/-- Conditions joined by `-a`. -/
def conjunction (place : Place) (inner : Nat → Reading) (args : List Text) :
    (steps : Nat) → (i : Nat) → (kind : Option (Option OperatorKind)) → Reading
  | 0, i, _ => .ok (true, i)
  | steps + 1, i, kind =>
    match negated place inner args args.length i kind with
    | .error fault => .error fault
    | .ok (first, last) =>
      if kindAt args (last + 1) = some (some .conjunction) then
        (conjunction place inner args steps (last + 2) (kindAt args (last + 2))).map
          fun (rest, last) => (first && rest, last)
      else .ok (first, last)

/-- Conditions joined by `-o`. -/
def disjunction (place : Place) (inner : Nat → Reading) (args : List Text) :
    (steps : Nat) → (i : Nat) → (kind : Option (Option OperatorKind)) → Reading
  | 0, i, _ => .ok (false, i)
  | steps + 1, i, kind =>
    match conjunction place inner args (args.length + 1) i kind with
    | .error fault => .error fault
    | .ok (first, last) =>
      if kindAt args (last + 1) = some (some .disjunction) then
        (disjunction place inner args steps (last + 2) (kindAt args (last + 2))).map
          fun (rest, last) => (first || rest, last)
      else .ok (first, last)

/-- A condition whose parentheses nest at most `depth` deep. -/
def nested (place : Place) (args : List Text) : (depth : Nat) → (i : Nat) → Reading
  | 0, i => .ok (false, i)
  | depth + 1, i =>
    disjunction place (nested place args depth) args (args.length + 1) i (kindAt args i)

/-- The condition of the arguments from the first one on, read as `kind`; all must be used up. -/
def whole (place : Place) (args : List Text) (kind : Option (Option OperatorKind)) :
    Except ConditionFault Bool :=
  match disjunction place (nested place args args.length) args (args.length + 1) 0 kind with
  | .error fault => .error fault
  | .ok (result, last) =>
    match args[last]?, args[last + 1]? with
    | some argument, some _ => .error (.unexpectedOperator argument)
    | _, _ => .ok result

/-- Three or four arguments in parentheses. -/
def isWrapped (args : List Text) : Bool :=
  (args.length = 3 || args.length = 4) && args.head? = some "(".toList
    && args.getLast? = some ")".toList

/-- The condition that arguments state. -/
def holds (place : Place) : List Text → Except ConditionFault Bool
  | [] => .ok false
  | first :: rest =>
    let args := first :: rest
    if args.length = 3 ∧ (args[1]?.bind operatorKind?) = some .binary then
      whole place args (some none)
    else if isWrapped args then whole place rest.dropLast (kindAt rest.dropLast 0)
    else if (args.length = 3 ∨ args.length = 4) ∧ first = "!".toList then
      (holds place rest).map (!·)
    else whole place args (kindAt args 0)

end Condition
end Shell
end TestBench
