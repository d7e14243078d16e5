/-
# The standard tools

What the standard tools do with their arguments, the command interpreter apart.

| tool | does |
| --- | --- |
| `true`, `false` | nothing; status 0 or 1 |
| `echo` | writes its arguments with blanks between them, and what backslashes stand for |
| `printf` | writes its arguments in the form that the first one gives |
| `test` | status 0 if the condition holds, 1 if not, 2 if it makes no sense |
| `sleep` | sleeps |
| `mkdir` | makes directories, with `-p` also those on the way |
| `chmod` | sets permissions: octal, `+x` or `-x` |
-/

import TestBench.Path
import TestBench.Program.Performance
import TestBench.Shell.Condition

namespace TestBench
namespace Shell

open Program

/-- What a tool did: its acts, its status and the files afterwards. -/
structure Deed where
  acts : List Act
  status : Nat
  tree : FileTree
  deriving DecidableEq, Repr

namespace Deed

/-- Nothing but a status. -/
def quiet (tree : FileTree) (status : Nat) : Deed := { acts := [], status, tree }

/-- A text on standard output. -/
def tells (tree : FileTree) (text : Text) (status : Nat) : Deed :=
  { acts := [.write .out (Utf8.encode text)], status, tree }

/-- A complaint on standard error. -/
def complains (tree : FileTree) (text : Text) (status : Nat) : Deed :=
  { acts := [.write .err (Utf8.encode (text ++ ['\n']))], status, tree }

/-- One deed after the other; the status is the worse one. -/
def andThen (first : Deed) (next : FileTree → Deed) : Deed :=
  let second := next first.tree
  { acts := first.acts ++ second.acts, status := max first.status second.status
    tree := second.tree }

end Deed

/-- The character of up to three octal digits, and what follows. -/
def octalChar (s : Text) : Char × Text :=
  let digits := (s.take 3).takeWhile fun c => '0' ≤ c && c ≤ '7'
  (Char.ofNat (digits.foldl (fun n c => 8 * n + Decimal.digitValue c) 0 % 256), s.drop digits.length)

/-- The character that a letter behind a backslash stands for. -/
def escapedChar? : Char → Option Char
  | 'a' => some '\x07'
  | 'b' => some '\x08'
  | 'f' => some '\x0c'
  | 'n' => some '\n'
  | 'r' => some '\r'
  | 't' => some '\t'
  | 'v' => some '\x0b'
  | '\\' => some '\\'
  | _ => none

/-- A text with what its backslashes stand for, and whether the text goes on behind it (`\c` ends all
output).  Octal numbers begin with a zero. -/
def unescape : (steps : Nat) → Text → Text × Bool
  | 0, _ | _, [] => ([], true)
  | steps + 1, '\\' :: c :: s =>
    if c = 'c' then ([], false)
    else if c = '0' then
      let (e, s) := octalChar s
      let (text, more) := unescape steps s
      (e :: text, more)
    else
      let (text, more) := unescape steps s
      match escapedChar? c with
      | some e => (e :: text, more)
      | none => ('\\' :: c :: text, more)
  | steps + 1, c :: s =>
    let (text, more) := unescape steps s
    (c :: text, more)

/-- What `echo` writes. -/
def echoText (args : List Text) : Text :=
  let (newline, args) := match args with
    | first :: rest => if first = "-n".toList then ([], rest) else (['\n'], args)
    | [] => (['\n'], [])
  let line := joinWith " ".toList args
  let (text, more) := unescape (line.length + 1) line
  if more then text ++ newline else text

/-- One run through the form of `printf`, and the arguments that it did not use. -/
def printfOnce : (steps : Nat) → Text → List Text → Text × List Text
  | 0, _, args | _, [], args => ([], args)
  | steps + 1, '%' :: c :: form, args =>
    let onward (text : Text) (args : List Text) : Text × List Text :=
      let (rest, left) := printfOnce steps form args
      (text ++ rest, left)
    if c = '%' then onward ['%'] args
    else if c = 's' then onward (args.headD []) (args.drop 1)
    else if c = 'd' ∨ c = 'i' then
      onward (Decimal.writeInt ((Decimal.readInt? (args.headD [])).getD 0)) (args.drop 1)
    else if c = 'b' then
      onward (unescape ((args.headD []).length + 1) (args.headD [])).1 (args.drop 1)
    else if c = 'c' then onward ((args.headD []).take 1) (args.drop 1)
    else onward ['%', c] args
  | steps + 1, '\\' :: c :: form, args =>
    let (e, form) : Text × Text :=
      if '0' ≤ c ∧ c ≤ '7' then
        let (e, form) := octalChar (c :: form)
        ([e], form)
      else match escapedChar? c with
        | some e => ([e], form)
        | none => if c = '"' then (['"'], form) else (['\\', c], form)
    let (rest, left) := printfOnce steps form args
    (e ++ rest, left)
  | steps + 1, c :: form, args =>
    let (rest, left) := printfOnce steps form args
    (c :: rest, left)

/-- What `printf` writes: the form is used again as long as arguments are left. -/
def printfText (form : Text) : (rounds : Nat) → List Text → Text
  | 0, _ => []
  | rounds + 1, args =>
    let (text, left) := printfOnce (form.length + 1) form args
    if left.isEmpty ∨ left.length = args.length then text else text ++ printfText form rounds left

/-- The nanoseconds of a number of seconds with decimals and perhaps a unit. -/
def sleepTime? (s : Text) : Option Nat :=
  let unit : Nat := match s.getLast? with
    | some 'm' => 60
    | some 'h' => 3600
    | some 'd' => 86400
    | _ => 1
  let number := s.takeWhile fun c => Decimal.isDigit c || c = '.'
  let behind := s.drop number.length
  let (whole, fraction) := (splitAtFirst? (· = '.') number).getD (number, [])
  if number.any Decimal.isDigit ∧ fraction.all Decimal.isDigit
      ∧ (behind = [] ∨ ["s".toList, "m".toList, "h".toList, "d".toList].contains behind) then
    some (unit * (Decimal.appendDigits 0 whole * 1000000000
      + Decimal.appendDigits 0 (fraction.take 9) * Nat.pow 10 (9 - (fraction.take 9).length)))
  else none

/-- A byte as it stands in a complaint: bytes beyond the basic alphabet and control characters in octal,
a quote and a backslash behind a backslash. -/
def shownByte (b : UInt8) : Text :=
  if b = 39 ∨ b = 92 then ['\\', Char.ofNat b.toNat]
  else if 32 ≤ b ∧ b < 127 then [Char.ofNat b.toNat]
  else '\\' :: [b.toNat / 64, b.toNat / 8 % 8, b.toNat % 8].map Decimal.digit

/-- A text in quotes as it stands in a complaint. -/
def inQuotes (text : Text) : Text := '\'' :: (Utf8.encode text).flatMap shownByte ++ ['\'']

/-- What a tool adds to a complaint about its arguments. -/
def helpHint (tool : Text) : Text :=
  "\nTry '".toList ++ tool ++ " --help' for more information.".toList

/-- The directory of a path and its last name. -/
def splitLast (path : Text) : List Bytes × Option Bytes :=
  let parts := (FileTree.parts (Utf8.encode path)).filter (· ≠ [])
  (parts.dropLast, parts.getLast?)

/-- Makes one directory; those on the way too if `parents`. -/
def makeOne (parents : Bool) (here : Location) (tree : FileTree) (path : Text) : Deed :=
  let complain (err : Text) : Deed :=
    .complains tree ("mkdir: cannot create directory ".toList ++ inQuotes path ++ ": ".toList ++ err) 1
  let start := if Path.isAbsolute path then [] else here
  match tree.resolveEntry here (Utf8.encode path) with
  | .ok .directory => if parents then .quiet tree 0 else complain "File exists".toList
  | .ok _ => complain "File exists".toList
  | .error .notFound =>
    if path = [] then complain "No such file or directory".toList
    else if parents then
      .quiet (tree.makeDirectories start
        ((FileTree.parts (Utf8.encode path)).filter (· ≠ []))).1 0
    else
      match splitLast path with
      | (before, some name) =>
        match tree.follow FileTree.linkLimit start before with
        | .ok parent => .quiet (tree.set (parent ++ [name]) .directory) 0
        | .error err => complain err.description.1
      | (_, none) => complain "File exists".toList
  | .error err => complain err.description.1

/-- The permissions after a change, if the change makes sense. -/
def newMode? (change : Text) (mode : Nat) : Option Nat :=
  if change ≠ [] ∧ change.all (fun c => '0' ≤ c && c ≤ '7') then
    some (change.foldl (fun n c => 8 * n + Decimal.digitValue c) 0)
  else if ["+x".toList, "a+x".toList].contains change then some (mode ||| 0o111)
  else if change = "u+x".toList then some (mode ||| 0o100)
  else if ["-x".toList, "a-x".toList].contains change then some (mode - (mode &&& 0o111))
  else none

/-- Changes the permissions of one file or directory. -/
def changeOne (change : Text) (here : Location) (tree : FileTree) (path : Text) : Deed :=
  match tree.resolve here (Utf8.encode path) with
  | .error err =>
    .complains tree ("chmod: cannot access ".toList ++ inQuotes path ++ ": ".toList
      ++ err.description.1) 1
  | .ok location =>
    match tree.entry? location with
    | some (.file content mode) =>
      .quiet (tree.set location (.file content ((newMode? change mode).getD mode))) 0
    | some .directory =>
      .quiet (tree.setMode location
        ((newMode? change (tree.modeAt location)).getD (tree.modeAt location))) 0
    | _ => .quiet tree 0

/-- One deed for each argument. -/
def forEach (deed : FileTree → Text → Deed) (tree : FileTree) : List Text → Deed
  | [] => .quiet tree 0
  | arg :: args => (deed tree arg).andThen fun tree => forEach deed tree args

/-- What a tool does.  `name` is what it calls itself in complaints about conditions. -/
def runTool (tool : Tool) (name : Text) (tree : FileTree) (here : Location) (args : List Text) : Deed :=
  match tool with
  | .shell | .succeed => .quiet tree 0
  | .fail => .quiet tree 1
  | .echo => .tells tree (echoText args) 0
  | .printf =>
    match args with
    | [] => .complains tree (name ++ "usage: printf format [arg ...]".toList) 2
    | form :: args => .tells tree (printfText form (args.length + 1) args) 0
  | .test =>
    match Condition.holds { tree, here } args with
    | .ok result => .quiet tree (if result then 0 else 1)
    | .error fault => .complains tree (name ++ fault.message) 2
  | .sleep =>
    match args.mapM sleepTime? with
    | some (time :: times) => { acts := [.sleep (times.foldl (· + ·) time)], status := 0, tree }
    | some [] => .complains tree ("sleep: missing operand".toList ++ helpHint "sleep".toList) 1
    | none =>
      .complains tree ("sleep: invalid time interval ".toList
        ++ inQuotes ((args.find? fun a => (sleepTime? a).isNone).getD [])
        ++ helpHint "sleep".toList) 1
  | .makeDirectory =>
    match args with
    | [] => .complains tree ("mkdir: missing operand".toList ++ helpHint "mkdir".toList) 1
    | first :: rest =>
      if first = "-p".toList then forEach (makeOne true here) tree rest
      else forEach (makeOne false here) tree args
  | .changeMode =>
    match args with
    | [] => .complains tree ("chmod: missing operand".toList ++ helpHint "chmod".toList) 1
    | [change] =>
      .complains tree ("chmod: missing operand after ".toList ++ inQuotes change
        ++ helpHint "chmod".toList) 1
    | change :: paths =>
      if (newMode? change 0).isSome then forEach (changeOne change here) tree paths
      else
        .complains tree ("chmod: invalid mode: ".toList ++ inQuotes change
          ++ helpHint "chmod".toList) 1

end Shell
end TestBench
