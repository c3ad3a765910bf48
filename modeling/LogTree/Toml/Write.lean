import LogTree.Data
import LogTree.Decimal.Layout
import LogTree.Text.Quoted

/-!
Writing TOML. A table writes its own values first and then, under headers, the tables inside it in
their order; a blank line stands before each header. A string takes the plainest form that holds it.
-/
namespace LogTree.Toml

def floatStyle : FloatStyle := ⟨true, none, .up, "nan", "inf"⟩

/-- A control character that only an escape can hold in a string over several lines. -/
def needsEscape (c : Char) : Bool :=
  (c.toNat < 0x20 && c != '\t' && c != '\n') || c.toNat == 0x7f

/-- The length of the longest run of `c`; `run` is the length of the one that is going on. -/
def longestRun (c : Char) : Nat → List Char → Nat
  | run, [] => run
  | run, d :: rest => if d == c then longestRun c (run + 1) rest else max run (longestRun c 0 rest)

def escape (c : Char) : String :=
  if c == '\x08' then "\\b"
  else if c == '\t' then "\\t"
  else if c == '\n' then "\\n"
  else if c == '\x0c' then "\\f"
  else if c == '\r' then "\\r"
  else if c == '"' then "\\\""
  else if c == '\\' then "\\\\"
  else "\\u" ++ (Text.hexPadded 4 c.toNat).map Char.toUpper

/-- Text with escapes. Over several lines, line breaks and up to two quotes in a row stay. -/
def escaped (long : Bool) : Nat → List Char → String
  | _, [] => ""
  | quotes, c :: rest =>
    if c == '"' then
      if long && quotes < 2 then "\"" ++ escaped long (quotes + 1) rest
      else escape c ++ escaped long 0 rest
    else if c == '\\' || c == '\t' || needsEscape c || (c == '\n' && !long) then
      escape c ++ escaped long 0 rest
    else c.toString ++ escaped long 0 rest

def basic (s : String) : String := "\"" ++ escaped false 0 s.toList ++ "\""

/-- What stands before text that may run over lines: the first of several lines starts on its own. -/
def opening (quotes s : String) : String := if s.toList.contains '\n' then quotes ++ "\n" else quotes

def longBasic (s : String) : String :=
  opening "\"\"\"" s ++ escaped true 0 s.toList ++ "\"\"\""

def literal (s : String) : String := "'" ++ s ++ "'"

def longLiteral (s : String) : String := opening "'''" s ++ s ++ "'''"

def stringText (s : String) : String :=
  let cs := s.toList
  let plain := !cs.any needsEscape
  let lines := cs.contains '\n'
  let slashes := cs.contains '\\'
  if plain && !slashes && !lines && !cs.contains '"' then basic s
  else if plain && !lines && !cs.contains '\'' then literal s
  else if plain && !slashes && longestRun '"' 0 cs ≤ 2 then longBasic s
  else if plain && longestRun '\'' 0 cs ≤ 2 then longLiteral s
  else if lines then longBasic s
  else basic s

def keyText (s : String) : String :=
  let cs := s.toList
  let bare := fun (c : Char) => c.isAlphanum || c == '_' || c == '-'
  let control := cs.any fun c => needsEscape c || c == '\n'
  if !cs.isEmpty && cs.all bare then s
  else if !control && (cs.contains '"' || cs.contains '\\') && !cs.contains '\'' then literal s
  else basic s

/-- Two items or more stand on lines of their own. -/
def arrayText : List String → String
  | [] => "[]"
  | [item] => "[" ++ item ++ "]"
  | items => "[\n" ++ String.join (items.map fun item => "    " ++ item ++ ",\n") ++ "]"

def braces (entries : List String) : String :=
  if entries.isEmpty then "\x7b\x7d" else "\x7b " ++ ", ".intercalate entries ++ " \x7d"

mutual

def inlineText : Data → String
  | .bool b => if b then "true" else "false"
  | .int n => toString n
  | .float x => floatStyle.text x
  | .string s => stringText s
  | .array items => arrayText (inlineItems items)
  | .table entries => braces (inlineEntries entries)
  | .null => "\"\""
  | .unreadable => "\"\""

def inlineItems : List Data → List String
  | [] => []
  | d :: rest => inlineText d :: inlineItems rest

def inlineEntries : List (String × Data) → List String
  | [] => []
  | (k, d) :: rest => (keyText k ++ " = " ++ inlineText d) :: inlineEntries rest

end

def isTable : Data → Bool
  | .table _ => true
  | _ => false

def hasHeader : Data → Bool
  | .table _ => true
  | .array items => !items.isEmpty && items.all isTable
  | _ => false

def ownLines (entries : List (String × Data)) : String :=
  String.join ((entries.filter fun e => !hasHeader e.2).map fun e =>
    keyText e.1 ++ " = " ++ inlineText e.2 ++ "\n")

def dotted (path : List String) : String := ".".intercalate (path.map keyText)

mutual

/-- The blocks of a value with headers; each block ends its last line. -/
def blocks (path : List String) : Data → List String
  | .table entries =>
    ("[" ++ dotted path ++ "]\n" ++ ownLines entries) :: blocksBelow path entries
  | .array items => if items.all isTable then elementBlocks path items else []
  | _ => []

def blocksBelow (path : List String) : List (String × Data) → List String
  | [] => []
  | (k, d) :: rest => blocks (path ++ [k]) d ++ blocksBelow path rest

def elementBlocks (path : List String) : List Data → List String
  | [] => []
  | d :: rest => elementBlock path d ++ elementBlocks path rest

def elementBlock (path : List String) : Data → List String
  | .table entries =>
    ("[[" ++ dotted path ++ "]]\n" ++ ownLines entries) :: blocksBelow path entries
  | _ => []

end

/-- A document; what is not a table has no text. -/
def pretty : Data → String
  | .table entries =>
    let own := ownLines entries
    "\n".intercalate ((if own.isEmpty then [] else [own]) ++ blocksBelow [] entries)
  | _ => ""

end LogTree.Toml
