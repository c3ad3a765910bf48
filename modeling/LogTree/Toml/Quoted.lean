import LogTree.Toml.Scalar

/-!
Strings of TOML. A basic string has escapes, a literal one has none; the long form of each runs over
lines, drops a line break right after its opening and may end in one or two quotes of its own.
-/
namespace LogTree.Toml

def isBlank (c : Char) : Bool := c == ' ' || c == '\t'

/-- Control characters other than the tab. -/
def isControl (c : Char) : Bool := (c.toNat < 0x20 && c != '\t') || c.toNat == 0x7f

def hexChar? (cs : List Char) : Option Char :=
  if cs.all (isDigitOf 16) then
    let n := ofDigitsIn 16 cs
    if n.isValidChar then some (Char.ofNat n) else none
  else none

def plainEscape? : Char → Option Char
  | 'b' => some '\x08'
  | 't' => some '\t'
  | 'n' => some '\n'
  | 'f' => some '\x0c'
  | 'r' => some '\r'
  | 'e' => some '\x1b'
  | '"' => some '"'
  | '\\' => some '\\'
  | _ => none

/-- What follows ends the line, blanks aside. -/
def endsLine (cs : List Char) : Bool :=
  match cs.dropWhile isBlank with
  | '\n' :: _ => true
  | '\r' :: '\n' :: _ => true
  | _ => false

/-- Up to two quotes before the three that close a long string belong to it. -/
def closeLong (quote : Char) : List Char → List Char × List Char
  | a :: b :: rest =>
    if a == quote && b == quote then ([a, b], rest)
    else if a == quote then ([a], b :: rest)
    else ([], a :: b :: rest)
  | [a] => if a == quote then ([a], []) else ([], [a])
  | [] => ([], [])

def before (c : Char) (found : Option (List Char × List Char)) : Option (List Char × List Char) :=
  found.map fun (cs, rest) => (c :: cs, rest)

/-- After a backslash at the end of a line, `skipping` drops blanks and line breaks. -/
def readBasic (long : Bool) : Bool → List Char → Option (List Char × List Char)
  | _, [] => none
  | _, '\\' :: 'x' :: a :: b :: rest => do
    before (← hexChar? [a, b]) (readBasic long false rest)
  | _, '\\' :: 'u' :: a :: b :: c :: d :: rest => do
    before (← hexChar? [a, b, c, d]) (readBasic long false rest)
  | _, '\\' :: 'U' :: a :: b :: c :: d :: e :: f :: g :: h :: rest => do
    before (← hexChar? [a, b, c, d, e, f, g, h]) (readBasic long false rest)
  | _, '\\' :: c :: rest =>
    if long && endsLine (c :: rest) then readBasic long true (c :: rest)
    else do before (← plainEscape? c) (readBasic long false rest)
  | _, '"' :: '"' :: '"' :: rest =>
    some (if long then closeLong '"' rest else ([], '"' :: '"' :: rest))
  | skipping, '\r' :: '\n' :: rest =>
    if !long then none
    else if skipping then readBasic long true rest
    else before '\r' (before '\n' (readBasic long false rest))
  | skipping, c :: rest =>
    if skipping && (isBlank c || c == '\n') then readBasic long true rest
    else if c == '"' && !long then some ([], rest)
    else if c == '\\' then none
    else if c == '\n' && long then before c (readBasic long false rest)
    else if isControl c then none
    else before c (readBasic long false rest)

def readLiteral (long : Bool) : List Char → Option (List Char × List Char)
  | [] => none
  | '\'' :: '\'' :: '\'' :: rest =>
    some (if long then closeLong '\'' rest else ([], '\'' :: '\'' :: rest))
  | '\r' :: '\n' :: rest =>
    if long then before '\r' (before '\n' (readLiteral long rest)) else none
  | c :: rest =>
    if c == '\'' && !long then some ([], rest)
    else if c == '\n' && long then before c (readLiteral long rest)
    else if isControl c then none
    else before c (readLiteral long rest)

def dropBreak : List Char → List Char
  | '\n' :: rest => rest
  | '\r' :: '\n' :: rest => rest
  | cs => cs

/-- A string of any form; `none` where no quote stands. -/
def readString? : List Char → Option (Option (List Char × List Char))
  | '"' :: '"' :: '"' :: rest => some (readBasic true false (dropBreak rest))
  | '"' :: rest => some (readBasic false false rest)
  | '\'' :: '\'' :: '\'' :: rest => some (readLiteral true (dropBreak rest))
  | '\'' :: rest => some (readLiteral false rest)
  | _ => none

def isBareKey (c : Char) : Bool := c.isAlphanum || c == '_' || c == '-'

/-- A key is bare or a string on one line. -/
def readKey? (cs : List Char) : Option (String × List Char) :=
  let text (found : Option (List Char × List Char)) : Option (String × List Char) :=
    found.map fun (key, rest) => (String.ofList key, rest)
  match cs with
  | '"' :: '"' :: '"' :: _ => none
  | '\'' :: '\'' :: '\'' :: _ => none
  | '"' :: rest => text (readBasic false false rest)
  | '\'' :: rest => text (readLiteral false rest)
  | _ =>
    match cs.takeWhile isBareKey with
    | [] => none
    | key => some (String.ofList key, cs.dropWhile isBareKey)

end LogTree.Toml
