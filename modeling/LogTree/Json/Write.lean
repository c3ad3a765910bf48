import LogTree.Data
import LogTree.Decimal.Layout
import LogTree.Text.Quoted

/-! Writing JSON, on one line or with two blanks of indentation per level. -/
namespace LogTree.Json

/-- A whole number keeps its point; exponents are used from 1e16 on and below 1e-5. -/
def floatStyle : FloatStyle := ⟨true, some (-5, 15), .even, "null", "null"⟩

def escape (c : Char) : String :=
  if c == '"' then "\\\""
  else if c == '\\' then "\\\\"
  else if c == '\x08' then "\\b"
  else if c == '\x0c' then "\\f"
  else if c == '\n' then "\\n"
  else if c == '\r' then "\\r"
  else if c == '\t' then "\\t"
  else if c.toNat < 0x20 then "\\u" ++ Text.hexPadded 4 c.toNat
  else c.toString

def quote (s : String) : String := "\"" ++ String.join (s.toList.map escape) ++ "\""

/-- What is not finite has no number. -/
def floatText (x : Float) : String :=
  if x.isNaN || x.isInf then "null" else floatStyle.text x

def scalar : Data → String
  | .bool b => if b then "true" else "false"
  | .int n => toString n
  | .float x => floatText x
  | .string s => quote s
  | _ => "null"

mutual

def compact : Data → String
  | .array items => "[" ++ ",".intercalate (compactItems items) ++ "]"
  | .table entries => "\x7b" ++ ",".intercalate (compactEntries entries) ++ "\x7d"
  | d => scalar d

def compactItems : List Data → List String
  | [] => []
  | d :: rest => compact d :: compactItems rest

def compactEntries : List (String × Data) → List String
  | [] => []
  | (k, d) :: rest => (quote k ++ ":" ++ compact d) :: compactEntries rest

end

def block (opening closing : String) (level : Nat) (parts : List String) : String :=
  if parts.isEmpty then opening ++ closing
  else
    let line := "\n" ++ "".pushn ' ' (2 * (level + 1))
    opening ++ line ++ ("," ++ line).intercalate parts ++ "\n" ++ "".pushn ' ' (2 * level) ++ closing

mutual

def prettyAt (level : Nat) : Data → String
  | .array items => block "[" "]" level (prettyItems level items)
  | .table entries => block "\x7b" "\x7d" level (prettyEntries level entries)
  | d => scalar d

def prettyItems (level : Nat) : List Data → List String
  | [] => []
  | d :: rest => prettyAt (level + 1) d :: prettyItems level rest

def prettyEntries (level : Nat) : List (String × Data) → List String
  | [] => []
  | (k, d) :: rest => (quote k ++ ": " ++ prettyAt (level + 1) d) :: prettyEntries level rest

end

def pretty (d : Data) : String := prettyAt 0 d

end LogTree.Json
