/-
# File-name patterns

A pattern is matched against the bytes of a name.

| written | matches |
| --- | --- |
| `?` | one byte other than a slash |
| `*` | any number of bytes other than a slash |
| `[…]`, `[!…]`, `[^…]` | one byte that is, or is not, among those listed; `a-b` lists a range |
| `{p,q}` | whatever `p` or `q` matches |
| `**` as a whole component | any number of components |
| `\c` | the character `c` |
| any other character | itself |

A pattern is read one character at a time; what is read so far is a `State`.  A star waits for its
successor, two stars for the character behind them, a backslash for the character that it quotes, and
a class for its closing bracket.
-/

import TestBench.Text.Basic

namespace TestBench
namespace Glob

/-- A part of a pattern. -/
inductive Token where
  /-- This character. -/
  | literal (c : Char)
  /-- One byte other than a slash. -/
  | any
  /-- Any number of bytes other than a slash. -/
  | star
  /-- Nothing, or components with a slash behind them. -/
  | componentsFirst
  /-- A slash and whatever follows it. -/
  | componentsLast
  /-- A slash, or components between two slashes. -/
  | componentsBetween
  /-- One byte that is among the characters of the ranges, or is not. -/
  | oneOf (negated : Bool) (ranges : List (Char × Char))
  /-- Whatever one of the branches matches. -/
  | group (branches : List (List Token))
  deriving Repr

/-- A pattern: its tokens, one after the other. -/
abbrev Pattern := List Token

/-- What is wrong with the text of a pattern. -/
inductive Fault where
  | unclosedClass
  | invalidRange (first last : Char)
  | unopenedGroup
  | unclosedGroup
  | danglingEscape
  deriving DecidableEq, Repr

/-- What is said of a fault. -/
def Fault.message : Fault → Text
  | unclosedClass => "unclosed character class; missing ']'".toList
  | invalidRange first last =>
    "invalid range; '".toList ++ first :: "' > '".toList ++ last :: "'".toList
  | unopenedGroup =>
    "unopened alternate group; missing '\x7b' (maybe escape '\x7d' with '[\x7d]'?)".toList
  | unclosedGroup =>
    "unclosed alternate group; missing '\x7d' (maybe escape '\x7b' with '[\x7b]'?)".toList
  | danglingEscape => "dangling '\\'".toList

/-- A class that is being read. -/
structure OpenClass where
  negated : Bool
  /-- Nothing has been listed yet. -/
  isFirst : Bool
  /-- A hyphen stands behind the last character. -/
  inRange : Bool
  /-- What is listed, last first. -/
  ranges : List (Char × Char)
  deriving DecidableEq, Repr

/-- What the next character means. -/
inductive Mode where
  | normal
  /-- A star was read; the character before it is given. -/
  | star (before : Option Char)
  /-- Two stars were read; the character before them is given. -/
  | stars (before : Option Char)
  /-- A backslash was read. -/
  | escape
  /-- An opening bracket was read. -/
  | classStart
  /-- A class is open. -/
  | inClass (cls : OpenClass)
  deriving DecidableEq, Repr

/-- A group that is being read: its finished branches and the tokens before it, last first. -/
structure OpenGroup where
  branches : List Pattern
  before : List Token

/-- A pattern that is being read. -/
structure State where
  mode : Mode
  /-- The last character. -/
  last : Option Char
  /-- The tokens of the current branch, last first. -/
  tokens : List Token
  /-- The open groups, innermost first. -/
  groups : List OpenGroup

namespace State

/-- Nothing has been read. -/
def start : State := { mode := .normal, last := none, tokens := [], groups := [] }

/-- One more token. -/
def push (s : State) (token : Token) : State := { s with mode := .normal, tokens := token :: s.tokens }

/-- Inside a group. -/
def inGroup (s : State) : Bool := !s.groups.isEmpty

/-- Two stars that do not stand for components. -/
def pushStars (s : State) : State := (s.push .star).push .star

/-- Two stars that end their component behind other tokens: the token before them is taken back, and
either stays as it is or gives way to the components. -/
def pushComponents (s : State) (token : Token) : State :=
  match s.tokens with
  | .componentsFirst :: _ | .componentsLast :: _ => { s with mode := .normal }
  | _ :: rest => { s with mode := .normal, tokens := token :: rest }
  | [] => s.push token

/-- A character outside of classes and stars. -/
def normalStep (s : State) (c : Char) : Except Fault State :=
  if c = '?' then .ok (s.push .any)
  else if c = '*' then .ok { s with mode := .star s.last }
  else if c = '[' then .ok { s with mode := .classStart }
  else if c = '\x7b' then
    .ok { s with mode := .normal, tokens := []
                 groups := { branches := [], before := s.tokens } :: s.groups }
  else if c = '\x7d' then
    match s.groups with
    | [] => .error .unopenedGroup
    | group :: groups =>
      .ok { s with mode := .normal, groups
                   tokens := .group ((s.tokens.reverse :: group.branches).reverse)
                     :: group.before }
  else if c = ',' then
    match s.groups with
    | [] => .ok (s.push (.literal ','))
    | group :: groups =>
      .ok { s with mode := .normal, tokens := []
                   groups := { group with branches := s.tokens.reverse :: group.branches }
                     :: groups }
  else if c = '\\' then .ok { s with mode := .escape }
  else .ok (s.push (.literal c))

/-- The character behind two stars.  They stand for components if they are a whole component of the
pattern or of a branch; the slash behind them is then part of them. -/
def starsStep (s : State) (before : Option Char) (c : Char) : Except Fault State :=
  if s.tokens.isEmpty then
    if c = '/' then .ok (s.push .componentsFirst) else s.pushStars.normalStep c
  else if before = some '/' ∨ (s.inGroup ∧ (before = some ',' ∨ before = some '\x7b')) then
    if c = '/' then .ok (s.pushComponents .componentsBetween)
    else if s.inGroup ∧ (c = ',' ∨ c = '\x7d') then (s.pushComponents .componentsLast).normalStep c
    else s.pushStars.normalStep c
  else s.pushStars.normalStep c

/-- Two stars at the end of the pattern. -/
def starsEnd (s : State) (before : Option Char) : State :=
  if s.tokens.isEmpty then s.push .componentsFirst
  else if before = some '/' ∨ (s.inGroup ∧ (before = some ',' ∨ before = some '\x7b')) then
    s.pushComponents .componentsLast
  else s.pushStars

/-- The end of a range. -/
def closeRange (cls : OpenClass) (c : Char) : Except Fault OpenClass :=
  match cls.ranges with
  | [] => .ok { cls with isFirst := false, inRange := false, ranges := [(c, c)] }
  | (first, _) :: rest =>
    if c < first then .error (.invalidRange first c)
    else .ok { cls with isFirst := false, inRange := false, ranges := (first, c) :: rest }

/-- A character of a class that is listed by itself. -/
def list (cls : OpenClass) (c : Char) : OpenClass :=
  { cls with isFirst := false, inRange := false, ranges := (c, c) :: cls.ranges }

/-- A character inside a class. -/
def classStep (s : State) (cls : OpenClass) (c : Char) : Except Fault State :=
  if c = ']' then
    if cls.isFirst then .ok { s with mode := .inClass (list cls c) }
    else
      let ranges := if cls.inRange then ('-', '-') :: cls.ranges else cls.ranges
      .ok (s.push (.oneOf cls.negated ranges.reverse))
  else if c = '-' ∧ !cls.isFirst ∧ !cls.inRange then
    .ok { s with mode := .inClass { cls with inRange := true } }
  else if cls.inRange then (closeRange cls c).map fun cls => { s with mode := .inClass cls }
  else .ok { s with mode := .inClass (list cls c) }

/-- A class before its first character. -/
def emptyClass (negated : Bool) : OpenClass :=
  { negated, isFirst := true, inRange := false, ranges := [] }

/-- The next character, except that it is not remembered. -/
def read (s : State) (c : Char) : Except Fault State :=
  match s.mode with
  | .normal => s.normalStep c
  | .star before =>
    if c = '*' then .ok { s with mode := .stars before } else (s.push .star).normalStep c
  | .stars before => s.starsStep before c
  | .escape => .ok (s.push (.literal c))
  | .classStart =>
    if c = '!' ∨ c = '^' then .ok { s with mode := .inClass (emptyClass true) }
    else s.classStep (emptyClass false) c
  | .inClass cls => s.classStep cls c

/-- The next character. -/
def step (s : State) (c : Char) : Except Fault State :=
  (s.read c).map fun s => { s with last := some c }

/-- The pattern, when there are no more characters. -/
def finish (s : State) : Except Fault Pattern :=
  let closed (s : State) : Except Fault Pattern :=
    if s.inGroup then .error .unclosedGroup else .ok s.tokens.reverse
  match s.mode with
  | .normal => closed s
  | .star _ => closed (s.push .star)
  | .stars before => closed (s.starsEnd before)
  | .escape => .error .danglingEscape
  | .classStart | .inClass _ => .error .unclosedClass

end State

/-- The pattern that a text describes. -/
def parse (text : Text) : Except Fault Pattern := do
  let s ← text.foldlM State.step State.start
  s.finish

end Glob
end TestBench
