import LogTree.Config.Load

/-! Configurations in files: the ending of the name tells the notation. -/
namespace LogTree.Config

inductive FileError where
  | missing
  /-- The path goes on below a file. -/
  | notDirectory
  | isDirectory
  | notText
  | nameTooLong
  | badName
  | other (message : String)
  deriving DecidableEq, Repr

def FileError.text : FileError → String
  | .missing => "No such file or directory (os error 2)"
  | .notDirectory => "Not a directory (os error 20)"
  | .isDirectory => "Is a directory (os error 21)"
  | .notText => "stream did not contain valid UTF-8"
  | .nameTooLong => "File name too long (os error 36)"
  | .badName => "file name contained an unexpected NUL byte"
  | .other message => message

abbrev Files := String → Except FileError ByteArray

namespace Files

def has (files : Files) (path : String) : Bool :=
  match files path with
  | .error .missing => false
  | .error .notDirectory => false
  | .error .nameTooLong => false
  | .error .badName => false
  | _ => true

def read (files : Files) (path : String) : Except FileError String :=
  match files path with
  | .error e => .error e
  | .ok bytes =>
    match String.fromUTF8? bytes with
    | some s => .ok s
    | none => .error .notText

/-- The parts of a path that lead anywhere. -/
def parts (path : String) : List String :=
  (path.splitOn "/").filter fun p => p != "" && p != "."

inductive Place where
  | within (path : List String)
  /-- The root, or another directory above the working directory. -/
  | above

/-- What a part of a path leads to; only from a directory does it lead anywhere. -/
def enter (entries : List (String × ByteArray)) (place : Place) (part : String) :
    Except FileError Place :=
  match place with
  | .above =>
    if [".", "", ".."].contains part then .ok .above
    else if 255 < part.utf8ByteSize then .error .nameTooLong
    else .error .missing
  | .within here =>
    if entries.any fun e => parts e.1 == here then .error .notDirectory
    else if part == "." || part == "" then .ok place
    else if part == ".." then .ok (if here.isEmpty then .above else .within here.dropLast)
    else if 255 < part.utf8ByteSize then .error .nameTooLong
    else if entries.any fun e => (here ++ [part]).isPrefixOf (parts e.1) then
      .ok (.within (here ++ [part]))
    else .error .missing

/-- A working directory that holds the given files and nothing else, below directories of which
nothing is known but that they are there. A path is followed part by part, so the first fault counts. -/
def ofList (entries : List (String × ByteArray)) : Files := fun path => do
  if path.toList.contains '\x00' then throw .badName
  if path == "" then throw .missing
  if 4096 ≤ path.utf8ByteSize then throw .nameTooLong
  let start := if path.startsWith "/" then .above else .within []
  match ← (path.splitOn "/").foldlM (enter entries) start with
  | .above => throw .isDirectory
  | .within here =>
    match entries.find? fun e => parts e.1 == here with
    | some e => .ok e.2
    | none => throw .isDirectory

end Files

/-- The last part of a path, unless it leads upwards; single points count for nothing. -/
def fileName? (path : String) : Option String :=
  match (Files.parts path).getLast? with
  | some ".." => none
  | last => last

/-- What follows the last point of the file's name; a point at its start is no such point. -/
def ending? (path : String) : Option String := do
  let name ← fileName? path
  let reversed := name.toList.reverse
  let after := reversed.takeWhile (· != '.')
  match reversed.drop after.length with
  | [] => none
  | [_] => none
  | _ => some (String.ofList after.reverse)

def Format.ofPath (path : String) : Except ConfigError Format :=
  match ending? path with
  | none => .error (.parse "cannot determine file format from extension")
  | some e =>
    match Format.ofEnding? e with
    | some f => .ok f
    | none => .error (.parse ("unsupported config format: ." ++ e))

def Blueprint.loadFile (files : Files) (path : String) : Except ConfigError Blueprint := do
  let f ← Format.ofPath path
  match files.read path with
  | .error e => .error (.io e.text)
  | .ok s => Blueprint.load f s

end LogTree.Config
