import LogTree.SinkError
import LogTree.Text.Alphanumeric
import LogTree.Text.Blank
import LogTree.Text.Quoted

/-!
Variables of the environment, and files that set more of them. A line of such a file names a variable
and gives its value, which may be quoted, hold escapes and other variables, and run over lines inside
quotes. A variable that is set already keeps its value.
-/
namespace LogTree

abbrev Environment := List (String × String)

namespace Environment
open LogTree.Text (isBlank skip trim)

/-- The value after a name. Names are matched up to an equals sign that follows them, so a name that
holds one itself may end inside a value. -/
def valueAfter? (name : String) (setting : String × String) : Option String :=
  let text := (setting.1 ++ "=" ++ setting.2).toList
  let start := (name ++ "=").toList
  if start.isPrefixOf text then some (String.ofList (text.drop start.length)) else none

def get? (e : Environment) (name : String) : Option String :=
  if name == "" then none else e.findSome? (valueAfter? name)

def isName (c : Char) : Bool := c.isAlphanum || c == '_' || c == '.'

def readName : List Char → Option (String × List Char)
  | [] => none
  | c :: cs =>
    if c.isAlpha || c == '_' then
      some (String.ofList ((c :: cs).takeWhile isName), (c :: cs).dropWhile isName)
    else none

inductive Mode where
  | plain
  | double
  | single
  | escape (inDouble : Bool)
  | name (inDouble : Bool) (soFar : List Char)
  | braced (inDouble : Bool) (soFar : List Char)
  /-- Only blanks and a comment may follow. -/
  | done

def quoteMode (inDouble : Bool) : Mode := if inDouble then .double else .plain

/-- A variable that nobody set is empty. -/
def substitute (look : String → Option String) (name : List Char) : List Char :=
  ((look (String.ofList name.reverse)).getD "").toList

/-- The text of a value, or `none` where it is not well formed. A name without braces ends before the
first character that is no letter or number of any script. -/
def readValue (look : String → Option String) : Mode → List Char → Option (List Char)
  | .plain, [] => some []
  | .done, [] => some []
  | .escape false, [] => some []
  | .name false n, [] => some (substitute look n)
  | _, [] => none
  | .done, c :: rest =>
    if c == ' ' || c == '\t' then readValue look .done rest
    else if c == '#' then some []
    else none
  | .escape d, c :: rest =>
    if ['\\', '\'', '"', '$', ' '].contains c then (readValue look (quoteMode d) rest).map (c :: ·)
    else if c == 'n' then (readValue look (quoteMode d) rest).map ('\n' :: ·)
    else none
  | .single, c :: rest =>
    if c == '\'' then readValue look .plain rest else (readValue look .single rest).map (c :: ·)
  | .name d n, c :: rest =>
    if Text.isAlphanumeric c then readValue look (.name d (c :: n)) rest
    else if c == '\x7b' && n.isEmpty then readValue look (.braced d []) rest
    else
      (if c == '$' then readValue look (.name d []) rest
      else (readValue look (quoteMode d) rest).map (c :: ·)).map (substitute look n ++ ·)
  | .braced d n, c :: rest =>
    if c == '\x7d' then (readValue look (quoteMode d) rest).map (substitute look n ++ ·)
    else readValue look (.braced d (c :: n)) rest
  | .double, c :: rest =>
    if c == '$' then readValue look (.name true []) rest
    else if c == '"' then readValue look .plain rest
    else if c == '\\' then readValue look (.escape true) rest
    else (readValue look .double rest).map (c :: ·)
  | .plain, c :: rest =>
    if c == '$' then readValue look (.name false []) rest
    else if c == '\'' then readValue look .single rest
    else if c == '"' then readValue look .double rest
    else if c == '\\' then readValue look (.escape false) rest
    else if c == ' ' || c == '\t' then readValue look .done rest
    else (readValue look .plain rest).map (c :: ·)

/-- A name may follow the word `export`, which may also be a name itself. -/
def readAssignment (cs : List Char) : Option (String × List Char) := do
  let (name, rest) ← readName cs
  match skip rest with
  | '=' :: value => some (name, skip value)
  | rest =>
    if name == "export" then
      let (name, rest) ← readName rest
      match skip rest with
      | '=' :: value => some (name, skip value)
      | _ => none
    else none

inductive Line where
  | nothing
  | sets (name value : String)
  | broken

def readLine (look : String → Option String) (cs : List Char) : Line :=
  match trim cs with
  | [] => .nothing
  | '#' :: _ => .nothing
  | start =>
    match readAssignment start with
    | none => .broken
    | some (name, []) => .sets name ""
    | some (name, '#' :: _) => .sets name ""
    | some (name, value) =>
      match readValue look .plain value with
      | some v => .sets name (String.ofList v)
      | none => .broken

inductive Split where
  | outside
  | blank
  | escape
  | double
  | doubleEscape
  | single
  | singleEscape

def Split.next (s : Split) (c : Char) : Split :=
  let open_ : Split :=
    if c == '\\' then .escape else if c == '"' then .double else if c == '\'' then .single
    else .outside
  match s with
  | .outside => if isBlank c && c != '\n' && c != '\r' then .blank else open_
  | .blank => open_
  | .escape => .outside
  | .double => if c == '\\' then .doubleEscape else if c == '"' then .outside else .double
  | .doubleEscape => .double
  | .single => if c == '\\' then .singleEscape else if c == '\'' then .outside else .single
  | .singleEscape => .single

/-- The last line counts only where nothing is open at its end. -/
def Split.isClosed : Split → Bool
  | .outside => true
  | _ => false

/-- The lines of a file; `none` is a line that nothing ends. A comment ends with its line. -/
def splitLines : (comment : Bool) → Split → (line : List Char) → List Char →
    List (Option (List Char))
  | comment, s, line, [] =>
    if comment || (s.isClosed && !line.isEmpty) then [some line.reverse]
    else if s.isClosed then [] else [none]
  | comment, s, line, c :: rest =>
    if comment then
      if c == '\n' then some line.reverse :: splitLines false .outside [] rest
      else splitLines true s line rest
    else if c == '#' && (line.all isBlank || s matches .blank) then splitLines true s line rest
    else if c == '\n' && (s.next c).isClosed then
      some line.reverse :: splitLines false .outside [] rest
    else splitLines false (s.next c) (c :: line) rest

def unsettable (name value : String) : String :=
  "failed to set environment variable `" ++ Text.quoted name ++ "` to `" ++ Text.quoted value ++
    "`: file name contained an unexpected NUL byte"

/-- Takes the lines one by one, up to the first that is not well formed. No variable can hold the
character of code zero; a line that tries ends the program. -/
def addLines : Environment → (seen : Environment) → List (Option (List Char)) →
    Except Payload Environment
  | e, _, [] => .ok e
  | e, _, none :: _ => .ok e
  | e, seen, some line :: rest =>
    match readLine (fun name => (e.get? name).or (seen.get? name)) line with
    | .broken => .ok e
    | .nothing => addLines e seen rest
    | .sets name value =>
      let seen := (name, value) :: seen
      if (e.get? name).isSome then addLines e seen rest
      else if value.toList.contains '\x00' then .error (.text (unsettable name value))
      else addLines ((name, value) :: e) seen rest

def addFile (e : Environment) (text : String) : Except Payload Environment :=
  let cs := match text.toList with
    | '\ufeff' :: cs => cs
    | cs => cs
  addLines e [] (splitLines false .outside [] cs)

/-- The longest start of whole lines that is text. -/
def readableStart (bytes : ByteArray) : String :=
  match String.fromUTF8? bytes with
  | some s => s
  | none =>
    let ends := (List.range bytes.size).filter fun i => bytes[i]? == some 10
    (ends.reverse.findSome? fun i => String.fromUTF8? (bytes.extract 0 (i + 1))).getD ""

/-- A file counts up to the first line that is no text. -/
def addBytes (e : Environment) (bytes : ByteArray) : Except Payload Environment :=
  e.addFile (readableStart bytes)

end Environment
end LogTree
