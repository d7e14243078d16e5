/-
# Where settings come from

A file in TOML.  If a file is named, it must exist, with its name as it is given or with `.toml` behind
it.  Otherwise a file at a fixed place below the working directory is taken if there is one.  What is taken
has to be readable.

Bytes that are no text are read as replacement characters, and a byte order mark is left out.
-/

import TestBench.FileTree.Resolve
import TestBench.Log.Event
import TestBench.Path
import TestBench.Settings.Preferences

namespace TestBench
namespace Settings

/-- Why no settings can be had from a file. -/
inductive SourceFault where
  | notFound (file : Text)
  /-- The system does not let the file be read. -/
  | inaccessible (err : SystemError)
  | notToml
  /-- Its values are none that settings can have. -/
  | unreadable (err : ReadError)
  deriving DecidableEq, Repr

/-- Settings that cannot be had. -/
structure SourceError where
  /-- The file as it was named; the defaults, if absent. -/
  file : Option Text
  fault : SourceFault
  deriving DecidableEq, Repr

/-- The cause of settings that cannot be had.  Where and why a document is no TOML is left out; a fixed text
stands for it. -/
def SourceFault.message : SourceFault → Text
  | notFound file => "configuration file \"".toList ++ file ++ "\" not found".toList
  | inaccessible err => err.message
  | notToml => "invalid TOML document".toList
  | unreadable err => err.message

/-- What is said of settings that cannot be had. -/
def SourceError.message (err : SourceError) : Text :=
  match err.file with
  | some file => "failed to parse ktest config at ".toList ++ Text.quoted file
  | none => "failed to parse the default ktest config".toList

namespace Source

/-- The file that is taken if none is named. -/
def defaultPlace : Text := ".config/ktest.toml".toList

/-- The text of a location. -/
def locationText (location : Location) : Text :=
  '/' :: joinWith "/".toList (location.map Utf8.decodeLossy)

/-- An absolute path with `.toml` behind its last name, if it ends with a name. -/
def withExtension? (path : Text) : Option Text :=
  match (Path.components path).getLast?, (Path.components path).dropLast with
  | some (.name name), .root :: inner =>
    some ('/' :: Path.write (inner ++ [.name (name ++ ".toml".toList)]))
  | _, _ => none

/-- A path leads to a regular file. -/
def isFile (tree : FileTree) (path : Text) : Bool := tree.isFile [] (Utf8.encode path)

/-- The absolute path of the file that a name stands for. -/
def find? (tree : FileTree) (here : Location) (name : Text) : Option Text :=
  let path := Path.join (locationText here) name
  if isFile tree path then some path
  else (withExtension? path).filter (isFile tree)

/-- The origin of the values in the file at an absolute path. -/
def originOf (here : Location) (path : Text) : Text :=
  (Path.relative? path (locationText here)).getD path

/-- The bytes of a file without a byte order mark. -/
def withoutMark : Bytes → Bytes
  | 0xEF :: 0xBB :: 0xBF :: rest => rest
  | bytes => bytes

/-- The settings that a file holds. -/
def read (tree : FileTree) (here : Location) (name : Text) : Except SourceFault Fields :=
  match find? tree here name with
  | none => .error (.notFound name)
  | some path =>
    match tree.read [] (Utf8.encode path) with
    | .error err => .error (.inaccessible err)
    | .ok content =>
      match Toml.parse? (Utf8.decodeLossy (withoutMark content)) with
      | none => .error .notToml
      | some fields => .ok (Value.fieldsOfToml (some (originOf here path)) fields)

/-- The file to read: the one that is named, or the one at the fixed place below `base`. -/
def choose? (tree : FileTree) (here : Location) (base : Text) (file : Option Text) : Option Text :=
  match file with
  | some file => some file
  | none =>
    let file := Path.join base defaultPlace
    if tree.isFile here (Utf8.encode file) then some file else none

/-- What is logged before a file is read. -/
def readingEvent (file : Text) : Log.Event :=
  { level := .debug, target := .settings
    message := "reading ktest config from ".toList ++ Text.quoted file }

/-- The warning of keys that mean nothing. -/
def unknownEvent (file : Option Text) (keys : List Text) : Log.Event :=
  { level := .warn, target := .settings
    message := "ignoring unknown configuration keys in ".toList
      ++ (match file with
        | some file => Text.quoted file
        | none => "the default config".toList)
      ++ ": ".toList ++ joinWith ", ".toList keys }

/-- The settings of the file to read; none if there is no file. -/
def readChosen (tree : FileTree) (here : Location) : Option Text → Except SourceFault Fields
  | some file => read tree here file
  | none => .ok []

end Source

/-- The preferences on a machine with `cpus` processors, taken from the file `file` if one is named, and
what is logged.  `base` is the working directory as it is called. -/
def load (cpus : Nat) (tree : FileTree) (here : Location) (base : Text) (file : Option Text) :
    Except SourceError Preferences × List Log.Event :=
  let chosen := Source.choose? tree here base file
  let reading := chosen.toList.map Source.readingEvent
  match Source.readChosen tree here chosen with
  | .error fault => (.error { file := chosen, fault }, reading)
  | .ok source =>
    match Preferences.ofSource cpus source with
    | .error err => (.error { file := chosen, fault := .unreadable err }, reading)
    | .ok (preferences, unknown) =>
      (.ok preferences,
        reading ++ if unknown = [] then [] else [Source.unknownEvent chosen unknown])

end Settings
end TestBench
