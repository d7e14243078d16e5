/-
# Running shell scripts

A script is run command by command, in a session that holds the files, the working directory, the
variables and the last status.

| command | is |
| --- | --- |
| `exit`, `exec`, `kill`, `cd`, `export`, `:` and the tools but `sleep`, `mkdir`, `chmod` | carried out by the shell |
| any other | a program, looked up as usual |

A command that cannot be found has status 127, one that cannot be started 126, and one that a signal
killed 128 and the number of the signal.
-/

import TestBench.Shell.Script
import TestBench.Shell.Tools

namespace TestBench
namespace Shell

open Program

/-- How a program is started: with the files, the working directory, the variables, its name and its
arguments.  It does something and leaves files behind. -/
abbrev Launcher :=
  FileTree → Location → Block → Text → List Text → Except SystemError (Performance × FileTree)

/-- A shell that runs a script. -/
structure Session where
  tree : FileTree
  here : Location
  env : Block
  /-- The name under which the shell speaks. -/
  zero : Text
  /-- The parameters behind it. -/
  arguments : List Text
  status : Nat
  /-- What was done so far. -/
  acts : List Act
  /-- How the shell ended, if it did. -/
  ended : Option Exit

namespace Session

/-- The number under which the shell knows itself. -/
def ownNumber : Text := "1".toList

/-- The value of a parameter. -/
def parameter (s : Session) (name : Text) : Text :=
  if name = "0".toList then s.zero
  else if name = "#".toList then Decimal.write s.arguments.length
  else if name = "?".toList then Decimal.write s.status
  else if name = "$".toList then ownNumber
  else if name = "@".toList ∨ name = "*".toList then joinWith " ".toList s.arguments
  else match Decimal.read? name with
    | some n => s.arguments[n - 1]?.getD []
    | none => Utf8.decodeLossy ((s.env.seen? (Utf8.encode name)).getD [])

/-- The words that a value without quotes falls into, and whether a blank stands before and behind
them. -/
def fieldsOf (value : Text) : List Text :=
  (splitAll (fun c => isSpace c || c = '\n') value).filter (· ≠ [])

/-- Words that are being put together: the finished ones, last first, and the open one. -/
structure Fields where
  done : List Text
  current : Option Text

namespace Fields

/-- More text on the open word. -/
def add (f : Fields) (text : Text) : Fields :=
  { f with current := some (f.current.getD [] ++ text) }

/-- The open word is finished. -/
def close (f : Fields) : Fields :=
  match f.current with
  | some word => { done := word :: f.done, current := none }
  | none => f

/-- The words of a value, of which the first goes on the open word unless a blank stands before it. -/
def addValue (f : Fields) (value : Text) : Fields :=
  let isBlank (c : Option Char) : Bool := c.any fun c => isSpace c || c = '\n'
  let f := if isBlank value.head? then f.close else f
  let f := match fieldsOf value with
    | [] => f
    | first :: rest => rest.foldl (fun f word => f.close.add word) (f.add first)
  if isBlank value.getLast? then f.close else f

end Fields

/-- The words that a word of a script stands for. -/
def expand (s : Session) (word : Word) : List Text :=
  let fields := word.foldl (fun f fragment =>
    match fragment with
    | .text _ text => f.add text
    | .parameter true name => f.add (s.parameter name)
    | .parameter false name => f.addValue (s.parameter name)) ({ done := [], current := none } : Fields)
  fields.close.done.reverse

/-- The one text that a word stands for where no words are counted. -/
def expandText (s : Session) (word : Word) : Text :=
  word.flatMap fun fragment =>
    match fragment with
    | .text _ text => text
    | .parameter _ name => s.parameter name

/-- Where an output goes. -/
inductive Destination where
  | stream (stream : Stream)
  | file (location : Location)
  | nowhere
  deriving DecidableEq, Repr

/-- Where the two outputs of a command go. -/
structure Outputs where
  out : Destination
  err : Destination

/-- The outputs of the shell itself. -/
def Outputs.ofShell : Outputs := { out := .stream .out, err := .stream .err }

/-- The session after a write. -/
def write (s : Session) (destination : Destination) (chunk : Bytes) : Session :=
  match destination with
  | .stream stream => { s with acts := s.acts ++ [.write stream chunk] }
  | .nowhere => s
  | .file location =>
    match s.tree.entry? location with
    | some (.file (.bytes old) mode) =>
      { s with tree := s.tree.set location (.file (.bytes (old ++ chunk)) mode) }
    | _ => s

/-- The session after acts whose outputs go elsewhere. -/
def perform (s : Session) (outputs : Outputs) (acts : List Act) : Session :=
  acts.foldl (fun s act =>
    match act with
    | .write .out chunk => s.write outputs.out chunk
    | .write .err chunk => s.write outputs.err chunk
    | .sleep n => { s with acts := s.acts ++ [.sleep n] }) s

/-- A complaint of the shell about a line. -/
def complaint (s : Session) (line : Nat) (text : Text) : Bytes :=
  Utf8.encode (s.zero ++ ": ".toList ++ Decimal.write line ++ ": ".toList ++ text ++ ['\n'])

/-- The session after a complaint, with its status. -/
def complain (s : Session) (outputs : Outputs) (line : Nat) (text : Text) (status : Nat) : Session :=
  { s.write outputs.err (s.complaint line text) with status }

/-- The file that swallows all. -/
def nullPath : Text := "/dev/null".toList

/-- The file that an output is sent to, emptied unless `append`; or why it cannot be made. -/
def openFile (s : Session) (append : Bool) (name : Text) : Except Text (Destination × FileTree) :=
  if name = nullPath then .ok (.nowhere, s.tree)
  else
    let start := if Path.isAbsolute name then [] else s.here
    match s.tree.resolve s.here (Utf8.encode name) with
    | .ok location =>
      match s.tree.entry? location with
      | some (.file (.bytes old) mode) =>
        .ok (.file location, s.tree.set location (.file (.bytes (if append then old else [])) mode))
      | some .directory => .error "Is a directory".toList
      | _ => .error "Permission denied".toList
    | .error .notFound =>
      match splitLast name with
      | (before, some last) =>
        match s.tree.follow FileTree.linkLimit start before with
        | .ok parent =>
          .ok (.file (parent ++ [last]), s.tree.set (parent ++ [last]) (.file (.bytes []) 0o644))
        | .error _ => .error "Directory nonexistent".toList
      | (_, none) => .error "Directory nonexistent".toList
    | .error err => .error err.description.1

/-- Where the outputs go after redirections; or what cannot be opened and why. -/
def redirect (s : Session) (outputs : Outputs) : List Redirection → Except Text (Outputs × FileTree)
  | [] => .ok (outputs, s.tree)
  | r :: rest =>
    let send (s : Session) (destination : Destination) : Except Text (Outputs × FileTree) :=
      redirect s (if r.descriptor = 1 then { outputs with out := destination }
        else { outputs with err := destination }) rest
    match r.target with
    | .descriptor n =>
      if n = 0 then send s .nowhere
      else if n = 1 then send s outputs.out
      else if n = 2 then send s outputs.err
      else .error (Decimal.write n ++ ": Bad file descriptor".toList)
    | .file append name =>
      match s.openFile append (s.expandText name) with
      | .ok (destination, tree) => send { s with tree } destination
      | .error reason => .error ("cannot create ".toList ++ s.expandText name ++ ": ".toList ++ reason)

/-- The definition that a word of a script is, before its parameters are filled in. -/
def definition? (s : Session) (word : Word) : Option (Text × Text) :=
  match word with
  | .text false first :: _ =>
    let leading := (word.takeWhile fun fragment =>
      match fragment with
      | .text false _ => true
      | _ => false).flatMap fun fragment =>
        match fragment with
        | .text false text => text
        | _ => []
    match splitAtFirst? (· = '=') leading, first.head? with
    | some (name, _), some c =>
      if isNameStart c ∧ name.all isNameChar then
        some (name, (s.expandText word).drop (name.length + 1))
      else none
    | _, _ => none
  | _ => none

/-- The definitions in front of a command, and the words behind them. -/
def splitDefinitions (s : Session) : List Word → List (Text × Text) × List Word
  | [] => ([], [])
  | word :: rest =>
    match s.definition? word with
    | some pair =>
      let (pairs, words) := splitDefinitions s rest
      (pair :: pairs, words)
    | none => ([], word :: rest)

/-- The session after definitions. -/
def define (s : Session) (pairs : List (Text × Text)) : Session :=
  { s with env := s.env.extend (pairs.map Block.encoded) }

/-- The names of the signals, in the order of their numbers from 1 on. -/
def signalNames : List Text :=
  ["HUP", "INT", "QUIT", "ILL", "TRAP", "ABRT", "BUS", "FPE", "KILL", "USR1", "SEGV", "USR2", "PIPE",
    "ALRM", "TERM", "STKFLT", "CHLD", "CONT", "STOP", "TSTP", "TTIN", "TTOU", "URG", "XCPU", "XFSZ",
    "VTALRM", "PROF", "WINCH", "IO", "PWR", "SYS"].map String.toList

/-- The signals that do nothing to a program that does not expect them. -/
def harmlessSignals : List Nat := [0, 17, 18, 23, 28]

/-- The number of a signal that is given by number or name. -/
def signalNumber? (text : Text) : Option Nat :=
  match Decimal.read? text with
  | some n => if n < 65 then some n else none
  | none => (signalNames.findIdx? (· = Text.upperAscii text)).map (· + 1)

/-- A signal sent to the shell itself. -/
def receive (s : Session) (signal : Nat) : Session :=
  if harmlessSignals.contains signal then { s with status := 0 }
  else { s with ended := some (.ofSignal signal) }

/-- How `kill` is used. -/
def killUsage : Text :=
  "kill: Usage: kill [-s sigspec | -signum | -sigspec] [pid | job]... or\nkill -l [exitstatus]".toList

/-- The session after signals to processes, of which the shell itself is the only one that exists. -/
def signalAll (s : Session) (outputs : Outputs) (line : Nat) (signal : Nat) (targets : List Text) :
    Session :=
  match targets.find? fun t => (Decimal.read? t).isNone with
  | some target => s.complain outputs line ("kill: Illegal number: ".toList ++ target) 2
  | none =>
    if targets = [] then s.complain outputs line killUsage 2
    else if targets.contains ownNumber then s.receive signal
    else s.complain outputs line "kill: No such process\n".toList 1

/-- The command `kill`. -/
def killCommand (s : Session) (outputs : Outputs) (line : Nat) (args : List Text) : Session :=
  let send (signalText : Text) (targets : List Text) : Session :=
    match signalNumber? signalText with
    | none =>
      s.complain outputs line ("kill: invalid signal number or name: ".toList ++ signalText) 2
    | some signal => s.signalAll outputs line signal targets
  match args with
  | ['-', '-'] :: targets => send "TERM".toList targets
  | ('-' :: first :: letters) :: targets =>
    match signalNumber? (first :: letters), first, letters, targets with
    | some signal, _, _, _ => s.signalAll outputs line signal targets
    | none, 's', [], [] => s.complain outputs line "kill: No arg for -s option".toList 2
    | none, 's', [], signal :: targets => send signal targets
    | none, 's', signal, _ => send signal targets
    | none, _, _, _ => s.complain outputs line ("kill: Illegal option -".toList ++ [first]) 2
  | targets => send "TERM".toList targets

/-- The greatest number that the shell's commands take. -/
def greatestNumber : Nat := 2147483647

/-- The command `exit`. -/
def exitCommand (s : Session) (outputs : Outputs) (line : Nat) (args : List Text) : Session :=
  match args with
  | [] => { s with ended := some (.ofCode s.status) }
  | arg :: _ =>
    match (Decimal.read? arg).filter (· ≤ greatestNumber) with
    | some n => { s with ended := some (.ofCode n) }
    | none =>
      let s := s.complain outputs line ("exit: Illegal number: ".toList ++ arg) 2
      { s with ended := some (.ofCode 2) }

/-- The command `cd`. -/
def changeDirectory (s : Session) (outputs : Outputs) (line : Nat) (args : List Text) : Session :=
  let path := args.headD []
  match s.tree.resolve s.here (Utf8.encode path) with
  | .ok location =>
    if s.tree.entry? location = some .directory ∧ s.tree.isSearchable location then
      { s with here := location, status := 0 }
    else s.complain outputs line ("cd: can't cd to ".toList ++ path) 2
  | .error _ => s.complain outputs line ("cd: can't cd to ".toList ++ path) 2

/-- The tools that the shell carries out itself. -/
def ownTools : List (Text × Tool) :=
  [("true".toList, .succeed), ("false".toList, .fail), ("echo".toList, .echo),
    ("printf".toList, .printf), ("test".toList, .test)]

/-- The session after a tool was used. -/
def useTool (s : Session) (outputs : Outputs) (line : Nat) (name : Text) (tool : Tool)
    (args : List Text) : Session :=
  let self := s.zero ++ ": ".toList ++ Decimal.write line ++ ": ".toList ++ name ++ ": ".toList
  let deed := runTool tool self s.tree s.here args
  { ({ s with tree := deed.tree } : Session).perform outputs deed.acts with status := deed.status }

/-- The status that the shell gives to a program that ended, and the name of the signal, if any. -/
def statusOf (exit : Exit) : Nat :=
  match exit.code?, exit.signal? with
  | some code, _ => code
  | none, some signal => 128 + signal
  | none, none => 0

/-- What the shell says of a program that a signal killed. -/
def signalRemark (signal : Nat) : Text :=
  match signal with
  | 1 => "Hangup\n".toList
  | 3 => "Quit\n".toList
  | 4 => "Illegal instruction\n".toList
  | 5 => "Trace/breakpoint trap\n".toList
  | 6 => "Aborted\n".toList
  | 7 => "Bus error\n".toList
  | 8 => "Floating point exception\n".toList
  | 9 => "Killed\n".toList
  | 11 => "Segmentation fault\n".toList
  | 14 => "Alarm clock\n".toList
  | 15 => "Terminated\n".toList
  | _ => []

/-- The path of the shell itself. -/
def shellPath : Text := "/bin/sh".toList

/-- A file that is neither a program nor names an interpreter is run as a script of the shell. -/
def launchOrInterpret (launch : Launcher) (s : Session) (name : Text) (args : List Text) :
    Except SystemError (Performance × FileTree) :=
  match launch s.tree s.here s.env name args with
  | .error .badExecutable => launch s.tree s.here s.env shellPath (name :: args)
  | result => result

/-- What the shell says of a program that it cannot start, and the status. -/
def launchFailure : SystemError → Text × Nat
  | .notFound | .notDirectory => ("not found".toList, 127)
  | .nameTooLong => (SystemError.nameTooLong.description.1, 127)
  | .tooManyLinks => (SystemError.tooManyLinks.description.1, 127)
  | err => (err.description.1, 126)

/-- The same of a command: the empty name stands for the directories that are searched, and a name that
the search does not settle has the status of one that is not found. -/
def commandFailure (name : Text) (err : SystemError) : Text × Nat :=
  let (text, status) := launchFailure (if name = [] then .permissionDenied else err)
  (text, if name.contains '/' then status else 127)

/-- The session after a program was run. -/
def runProgram (launch : Launcher) (s : Session) (outputs : Outputs) (line : Nat) (name : Text)
    (args : List Text) : Session :=
  match launchOrInterpret launch s name args with
  | .ok (performance, tree) =>
    let s := ({ s with tree } : Session).perform outputs performance.acts
    let s := match performance.exit.signal? with
      | some signal => s.write outputs.err (Utf8.encode (signalRemark signal))
      | none => s
    { s with status := statusOf performance.exit }
  | .error err =>
    let (text, status) := commandFailure name err
    s.complain outputs line (name ++ ": ".toList ++ text) status

/-- The session after a program took the place of the shell. -/
def execCommand (launch : Launcher) (s : Session) (outputs : Outputs) (line : Nat) :
    List Text → Session
  | [] => { s with status := 0 }
  | name :: args =>
    match launchOrInterpret launch s name args with
    | .ok (performance, tree) =>
      { ({ s with tree } : Session).perform outputs performance.acts with
        ended := some performance.exit }
    | .error err =>
      let (text, status) := launchFailure err
      { s.complain outputs line ("exec: ".toList ++ name ++ ": ".toList ++ text) status with
        ended := some (.ofCode status) }

/-- The session after a command whose words were put together. -/
def runWords (launch : Launcher) (s : Session) (outputs : Outputs) (line : Nat) :
    List Text → Session
  | [] => { s with status := 0 }
  | name :: args =>
    if name = ":".toList then { s with status := 0 }
    else if name = "exit".toList then s.exitCommand outputs line args
    else if name = "exec".toList then execCommand launch s outputs line args
    else if name = "kill".toList then s.killCommand outputs line args
    else if name = "cd".toList then s.changeDirectory outputs line args
    else if name = "export".toList then
      { s.define (args.filterMap fun a => splitAtFirst? (· = '=') a) with status := 0 }
    else if name = "[".toList then
      if args.getLast? = some "]".toList then s.useTool outputs line name .test args.dropLast
      else s.complain outputs line "[: missing ]".toList 2
    else match ownTools.lookup name with
      | some tool => s.useTool outputs line name tool args
      | none => runProgram launch s outputs line name args

/-- The commands that end the shell if their outputs cannot be sent where they should. -/
def basicCommands : List Text := [":", "exit", "exec", "export"].map String.toList

/-- The session after a command. -/
def runCommand (launch : Launcher) (s : Session) (command : Command) : Session :=
  let (pairs, words) := s.splitDefinitions command.words
  match s.redirect .ofShell command.redirections with
  | .error reason =>
    let s := s.complain .ofShell command.line reason 2
    match (words.flatMap s.expand).head? with
    | some name => if basicCommands.contains name then { s with ended := some (.ofCode 2) } else s
    | none => s
  | .ok (outputs, tree) =>
    let s := { s with tree }
    let after :=
      if words = [] then { s.define pairs with status := 0 }
      else
        let ran := runWords launch (s.define pairs) outputs command.line (words.flatMap s.expand)
        if pairs = [] then ran else { ran with env := s.env }
    if command.negated then { after with status := if after.status = 0 then 1 else 0 } else after

/-- The command is to run after one with this status. -/
def applies (link : Link) (status : Nat) : Bool :=
  match link with
  | .always => true
  | .ifSucceeded => status = 0
  | .ifFailed => status != 0

/-- The session after commands, up to the one that ends it. -/
def runCommands (launch : Launcher) : Session → List Command → Session
  | s, [] => s
  | s, command :: rest =>
    match s.ended with
    | some _ => s
    | none =>
      if applies command.link s.status then runCommands launch (runCommand launch s command) rest
      else runCommands launch s rest

/-- The session after a script. -/
def runScript (launch : Launcher) (s : Session) (script : Script) : Session :=
  let s := runCommands launch s script.commands
  match s.ended, script.fault with
  | none, some (line, fault) =>
    { s.write (.stream .err) (s.complaint line fault.message) with ended := some (.ofCode 2) }
  | _, _ => s

/-- What the session amounts to. -/
def result (s : Session) : Performance × FileTree :=
  ({ acts := s.acts, exit := s.ended.getD (.ofCode s.status), keepsOpen := false }, s.tree)

end Session

/-- What a shell does that is called `zero` and given a script and its arguments. -/
def runText (launch : Launcher) (tree : FileTree) (here : Location)
    (env : Block) (zero : Text) (arguments : List Text) (text : Text) :
    Performance × FileTree :=
  (Session.runScript launch
    { tree, here, env, zero, arguments, status := 0, acts := [], ended := none }
    (Script.ofText text)).result

/-- A shell that can do nothing but complain. -/
def refuses (tree : FileTree) (text : Text) : Performance × FileTree :=
  ({ acts := [.write .err (Utf8.encode (text ++ ['\n']))], exit := .ofCode 2, keepsOpen := false },
    tree)

/-- What a shell does with its own arguments: a script behind `-c`, or the name of a script's file. -/
def run (launch : Launcher) (tree : FileTree) (here : Location) (env : Block) (self : Text) :
    List Text → Performance × FileTree
  | [] => ({ acts := [], exit := .success, keepsOpen := false }, tree)
  | first :: rest =>
    if first = "-c".toList then
      match rest with
      | [] => refuses tree (self ++ ": 0: -c requires an argument".toList)
      | script :: args => runText launch tree here env (args.headD self) (args.drop 1) script
    else
      match tree.resolveEntry here (Utf8.encode first) with
      | .ok (.file (.program recipe) _) => (recipe.perform env, tree)
      | .ok (.file (.bytes content) _) =>
        runText launch tree here env first rest (Utf8.decodeLossy content)
      | _ => refuses tree (self ++ ": 0: cannot open ".toList ++ first ++ ": No such file".toList)

end Shell
end TestBench
