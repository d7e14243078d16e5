/-
# Shell scripts

A script is a sequence of simple commands.

| between commands | the next command runs |
| --- | --- |
| `;`, line feed | always |
| `&&` | if the last status is zero |
| double bar | if the last status is not zero |

A command has words and redirections of its outputs (`>file`, `>>file`, `2>&1`).  Words hold quoted and
unquoted text and parameters (`$1`, `$name`).  A script is read line by line: a fault in one line does
not keep the lines before it from being run.  Pipes, groups and compound commands are not part of the
language.
-/

import TestBench.Text.Decimal

namespace TestBench
namespace Shell

/-- A part of a word. -/
inductive Fragment where
  | text (quoted : Bool) (text : Text)
  | parameter (quoted : Bool) (name : Text)
  deriving DecidableEq, Repr

/-- A word of a script. -/
abbrev Word := List Fragment

/-- Where an output is sent. -/
inductive Target where
  /-- To wherever another descriptor is sent. -/
  | descriptor (number : Nat)
  | file (append : Bool) (name : Word)
  deriving DecidableEq, Repr

/-- A descriptor is sent elsewhere. -/
structure Redirection where
  descriptor : Nat
  target : Target
  deriving DecidableEq, Repr

/-- When a command runs. -/
inductive Link where
  | always
  | ifSucceeded
  | ifFailed
  deriving DecidableEq, Repr

/-- A simple command. -/
structure Command where
  /-- The line that it stands on. -/
  line : Nat
  link : Link
  /-- Its status is turned around. -/
  negated : Bool
  words : List Word
  redirections : List Redirection
  deriving DecidableEq, Repr

/-- Why a line cannot be read. -/
inductive SyntaxFault where
  | unterminatedQuote
  | unexpected (token : Text)
  | unexpectedEnd
  | badSubstitution
  deriving DecidableEq, Repr

/-- What is said of a line that cannot be read. -/
def SyntaxFault.message : SyntaxFault → Text
  | unterminatedQuote => "Syntax error: Unterminated quoted string".toList
  | unexpected token => "Syntax error: ".toList ++ token ++ " unexpected".toList
  | unexpectedEnd => "Syntax error: end of file unexpected".toList
  | badSubstitution => "Syntax error: Bad substitution".toList

/-- The commands of a script up to its first fault. -/
structure Script where
  commands : List Command
  /-- The line of the first fault, and the fault. -/
  fault : Option (Nat × SyntaxFault)
  deriving DecidableEq, Repr

/-- A piece of a script. -/
inductive Token where
  | word (word : Word)
  | redirection (redirection : Redirection)
  | semicolon
  | lineEnd
  | both
  | either
  /-- Nothing that follows can be read. -/
  | fault (fault : SyntaxFault)
  deriving DecidableEq, Repr

/-- A blank between words. -/
def isSpace (c : Char) : Bool := c = ' ' || c = '\t'

/-- A character that ends a word. -/
def endsWord (c : Char) : Bool := " \t\n;&|<>()".toList.contains c

/-- A character that may begin the name of a variable. -/
def isNameStart (c : Char) : Bool := c.isAlpha || c = '_'

/-- A character of the name of a variable. -/
def isNameChar (c : Char) : Bool := c.isAlphanum || c = '_'

/-- What the text behind a dollar sign means: the name of a parameter and what follows, or nothing if
the dollar sign stands for itself. -/
def parameter? : Text → Except SyntaxFault (Option (Text × Text))
  | [] => .ok none
  | '{' :: s =>
    match splitAtFirst? (· = '}') s with
    | some (name, rest) =>
      if name ≠ [] ∧ (name.all isNameChar ∨ name.length = 1) then .ok (some (name, rest))
      else .error .badSubstitution
    | none => .error .badSubstitution
  | '(' :: _ => .error (.unexpected "\"(\"".toList)
  | c :: s =>
    if isNameStart c then .ok (some ((c :: s).takeWhile isNameChar, (c :: s).dropWhile isNameChar))
    else if Decimal.isDigit c ∨ "#?$!@*-".toList.contains c then .ok (some ([c], s))
    else .ok none

/-- A result with one more fragment in front. -/
def withFragment (fragment : Fragment) (r : Except SyntaxFault (Word × Text)) :
    Except SyntaxFault (Word × Text) :=
  r.map fun (word, s) => (fragment :: word, s)

/-- The fragments up to a closing double quote, and what follows it. -/
def doubleQuoted : (steps : Nat) → Text → Except SyntaxFault (Word × Text)
  | 0, _ | _, [] => .error .unterminatedQuote
  | steps + 1, c :: s =>
    if c = '"' then .ok ([], s)
    else if c = '`' then .error (.unexpected "\"`\"".toList)
    else if c = '\\' then
      match s with
      | '\n' :: s => doubleQuoted steps s
      | e :: s =>
        if "$`\"\\".toList.contains e then withFragment (.text true [e]) (doubleQuoted steps s)
        else withFragment (.text true ['\\', e]) (doubleQuoted steps s)
      | [] => .error .unterminatedQuote
    else if c = '$' then
      match parameter? s with
      | .error fault => .error fault
      | .ok (some (name, s)) => withFragment (.parameter true name) (doubleQuoted steps s)
      | .ok none => withFragment (.text true ['$']) (doubleQuoted steps s)
    else withFragment (.text true [c]) (doubleQuoted steps s)

/-- The fragments of the word that a text begins with, and what follows it. -/
def wordOf : (steps : Nat) → Text → Except SyntaxFault (Word × Text)
  | 0, s => .ok ([], s)
  | _, [] => .ok ([], [])
  | steps + 1, c :: s =>
    if endsWord c then .ok ([], c :: s)
    else if c = '\'' then
      match splitAtFirst? (· = '\'') s with
      | some (inner, s) => withFragment (.text true inner) (wordOf steps s)
      | none => .error .unterminatedQuote
    else if c = '"' then
      match doubleQuoted (s.length + 1) s with
      | .error fault => .error fault
      | .ok (inner, s) =>
        (wordOf steps s).map fun (word, s) => (.text true [] :: inner ++ word, s)
    else if c = '`' then .error (.unexpected "\"`\"".toList)
    else if c = '\\' then
      match s with
      | '\n' :: s => wordOf steps s
      | e :: s => withFragment (.text true [e]) (wordOf steps s)
      | [] => .ok ([.text true ['\\']], [])
    else if c = '$' then
      match parameter? s with
      | .error fault => .error fault
      | .ok (some (name, s)) => withFragment (.parameter false name) (wordOf steps s)
      | .ok none => withFragment (.text false ['$']) (wordOf steps s)
    else withFragment (.text false [c]) (wordOf steps s)

/-- The redirection that the text behind `>` asks for, and what follows. -/
def redirectionOf (descriptor : Nat) (s : Text) : Except SyntaxFault (Redirection × Text) :=
  match s with
  | '&' :: d :: s =>
    if Decimal.isDigit d then
      .ok ({ descriptor, target := .descriptor (Decimal.digitValue d) }, s)
    else .error (.unexpected "\"&\"".toList)
  | s =>
    let (append, s) := match s with
      | '>' :: s => (true, s)
      | s => (false, s)
    let s := s.dropWhile isSpace
    match wordOf (s.length + 1) s with
    | .error fault => .error fault
    | .ok ([], []) => .error .unexpectedEnd
    | .ok ([], _) => .error (.unexpected "newline".toList)
    | .ok (name, s) => .ok ({ descriptor, target := .file append name }, s)

/-- The token that a text begins with, and what follows it. -/
def token (s : Text) : Token × Text :=
  let redirect (descriptor : Nat) (s : Text) : Token × Text :=
    match redirectionOf descriptor s with
    | .ok (redirection, s) => (.redirection redirection, s)
    | .error fault => (.fault fault, [])
  match s with
  | '\n' :: s => (.lineEnd, s)
  | '&' :: '&' :: s => (.both, s)
  | '|' :: '|' :: s => (.either, s)
  | ';' :: ';' :: _ => (.fault (.unexpected "\";;\"".toList), [])
  | ';' :: s => (.semicolon, s)
  | '>' :: s => redirect 1 s
  | '1' :: '>' :: s => redirect 1 s
  | '2' :: '>' :: s => redirect 2 s
  | s =>
    match wordOf (s.length + 1) s with
    | .error fault => (.fault fault, [])
    | .ok ([], c :: _) => (.fault (.unexpected ['"', c, '"']), [])
    | .ok (word, s) => (.word word, s)

/-- The tokens of a text, each with the line that it begins on; the last line stands behind them. -/
def tokens : (steps : Nat) → (line : Nat) → Text → List (Nat × Token)
  | 0, _, _ | _, _, [] => []
  | steps + 1, line, c :: s =>
    if isSpace c then tokens steps line s
    else if c = '#' then tokens steps line (s.dropWhile (· ≠ '\n'))
    else if c = '\\' ∧ s.head? = some '\n' then tokens steps (line + 1) (s.drop 1)
    else
      let (found, rest) := token (c :: s)
      let passed := ((c :: s).take (s.length + 1 - rest.length)).count '\n'
      match found with
      | .fault fault => [(line + (c :: s).count '\n', .fault fault)]
      | found => (line, found) :: tokens steps (line + passed) rest

/-- A command that is being read: its words and redirections, last first. -/
structure Draft where
  link : Link
  line : Nat
  negated : Bool
  words : List Word
  redirections : List Redirection

namespace Draft

/-- The command before its first token. -/
def start (link : Link) : Draft :=
  { link, line := 0, negated := false, words := [], redirections := [] }

/-- Nothing was read yet. -/
def isEmpty (d : Draft) : Bool := d.words.isEmpty && d.redirections.isEmpty && !d.negated

/-- The command that was read. -/
def command (d : Draft) : Command :=
  { line := d.line, link := d.link, negated := d.negated, words := d.words.reverse
    redirections := d.redirections.reverse }

/-- The command with one more word. -/
def addWord (d : Draft) (line : Nat) (word : Word) : Draft :=
  if d.isEmpty ∧ word = [.text false ['!']] then { d with line, negated := true }
  else { d with line := if d.words.isEmpty then line else d.line, words := word :: d.words }

end Draft

/-- The commands of tokens.  `done` holds the commands of finished lines and `open_` those of the
current one, both last first. -/
def commandsOf (done open_ : List Command) (draft : Draft) : List (Nat × Token) → Script
  | [] =>
    if !draft.isEmpty then { commands := (draft.command :: open_ ++ done).reverse, fault := none }
    else if draft.link = .always then { commands := (open_ ++ done).reverse, fault := none }
    else { commands := done.reverse, fault := some (1, .unexpectedEnd) }
  | (line, token) :: rest =>
    match token with
    | .word word => commandsOf done open_ (draft.addWord line word) rest
    | .redirection redirection =>
      commandsOf done open_
        { draft with line, redirections := redirection :: draft.redirections } rest
    | .lineEnd =>
      if !draft.isEmpty then commandsOf (draft.command :: open_ ++ done) [] (.start .always) rest
      else if draft.link = .always then commandsOf (open_ ++ done) [] (.start .always) rest
      else commandsOf done open_ draft rest
    | .fault fault => { commands := done.reverse, fault := some (line, fault) }
    | .semicolon =>
      if draft.isEmpty then
        { commands := done.reverse, fault := some (line, .unexpected "\";\"".toList) }
      else commandsOf done (draft.command :: open_) (.start .always) rest
    | .both =>
      if draft.isEmpty then
        { commands := done.reverse, fault := some (line, .unexpected "\"&&\"".toList) }
      else commandsOf done (draft.command :: open_) (.start .ifSucceeded) rest
    | .either =>
      if draft.isEmpty then
        { commands := done.reverse, fault := some (line, .unexpected "\"||\"".toList) }
      else commandsOf done (draft.command :: open_) (.start .ifFailed) rest

/-- The script that a text writes. -/
def Script.ofText (s : Text) : Script := commandsOf [] [] (.start .always) (tokens (s.length + 1) 1 s)

end Shell
end TestBench
