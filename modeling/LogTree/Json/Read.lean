import LogTree.Decimal.Read
import LogTree.Json.Number

/-!
Reading JSON. A surrogate without its partner, a number out of range and nesting beyond the limit are
read as `unreadable`; everything else that JSON forbids makes the reading fail.
-/
namespace LogTree.Json
open LogTree.Decimal (digitValue)

def isBlank (c : Char) : Bool := c == ' ' || c == '\n' || c == '\t' || c == '\r'

def skipBlanks (cs : List Char) : List Char := cs.dropWhile isBlank

def hexValue? (c : Char) : Option Nat :=
  if c.isDigit then some (digitValue c)
  else if 'a' ≤ c && c ≤ 'f' then some (c.toNat - 'a'.toNat + 10)
  else if 'A' ≤ c && c ≤ 'F' then some (c.toNat - 'A'.toNat + 10)
  else none

def hexNumber? (cs : List Char) : Option Nat :=
  cs.foldl (fun n c => n.bind fun n => (hexValue? c).map (n * 16 + ·)) (some 0)

inductive Unit16 where
  | char (c : Char)
  | high (n : Nat)
  | low (n : Nat)

def Unit16.ofNat (n : Nat) : Unit16 :=
  if 0xD800 ≤ n && n ≤ 0xDBFF then .high n
  else if 0xDC00 ≤ n && n ≤ 0xDFFF then .low n
  else .char (Char.ofNat n)

/-- Joins the pairs; a half without its partner spoils the string. -/
def joinUnits : List Unit16 → Option (List Char)
  | [] => some []
  | .char c :: rest => (joinUnits rest).map (c :: ·)
  | .high h :: .low l :: rest =>
    (joinUnits rest).map (Char.ofNat (0x10000 + (h - 0xD800) * 0x400 + (l - 0xDC00)) :: ·)
  | .high _ :: _ => none
  | .low _ :: _ => none

def plainEscape? : Char → Option Char
  | '"' => some '"'
  | '\\' => some '\\'
  | '/' => some '/'
  | 'b' => some '\x08'
  | 'f' => some '\x0c'
  | 'n' => some '\n'
  | 'r' => some '\r'
  | 't' => some '\t'
  | _ => none

def readUnits : List Char → Option (List Unit16 × List Char)
  | [] => none
  | '"' :: rest => some ([], rest)
  | '\\' :: 'u' :: a :: b :: c :: d :: rest => do
    let n ← hexNumber? [a, b, c, d]
    let (us, tail) ← readUnits rest
    some (Unit16.ofNat n :: us, tail)
  | '\\' :: e :: rest => do
    let c ← plainEscape? e
    let (us, tail) ← readUnits rest
    some (.char c :: us, tail)
  | c :: rest =>
    if c == '\\' || c.toNat < 0x20 then none
    else (readUnits rest).map fun (us, tail) => (.char c :: us, tail)

/-- `none` inside is a string that cannot be read. -/
def readString (cs : List Char) : Option (Option String × List Char) :=
  (readUnits cs).map fun (us, tail) => ((joinUnits us).map String.ofList, tail)

def readDigits (cs : List Char) : List Nat × List Char :=
  ((cs.takeWhile Char.isDigit).map digitValue, cs.dropWhile Char.isDigit)

def readFraction : List Char → Option (Option (List Nat) × List Char)
  | '.' :: rest =>
    match readDigits rest with
    | ([], _) => none
    | (ds, tail) => some (some ds, tail)
  | cs => some (none, cs)

def readExponentSign : List Char → Bool × List Char
  | '-' :: r => (true, r)
  | '+' :: r => (false, r)
  | r => (false, r)

def readExponent : List Char → Option (Option Int × List Char)
  | e :: rest =>
    if e == 'e' || e == 'E' then
      let (negative, ds) := readExponentSign rest
      match readDigits ds with
      | ([], _) => none
      | (digits, tail) =>
        let n : Int := (digits.foldl (fun n d => n * 10 + d) 0 : Nat)
        some (some (if negative then -n else n), tail)
    else some (none, e :: rest)
  | [] => some (none, [])

/-- No leading zero before another digit. -/
def readNumber (cs : List Char) : Option (Data × List Char) := do
  let (negative, unsigned) := match cs with
    | '-' :: r => (true, r)
    | r => (false, r)
  let (whole, rest) ← match readDigits unsigned with
    | ([], _) => none
    | (0 :: _ :: _, _) => none
    | found => some found
  let (fraction, rest) ← readFraction rest
  let (exponent, rest) ← readExponent rest
  some ((Literal.mk negative whole fraction exponent).value, rest)

/-- How many arrays and objects may be open at once. -/
def depthLimit : Nat := 127

def readWord (word : String) (d : Data) (cs : List Char) : Option (Data × List Char) :=
  if word.toList.isPrefixOf cs then some (d, cs.drop word.length) else none

/-- The entries of an object, unless a key cannot be read. -/
def tableOf (entries : List (Option String × Data)) : Data :=
  match entries.mapM fun (k, d) => k.map (·, d) with
  | some es => .table es
  | none => .unreadable

/-- What lies deeper than the limit stands for nothing. -/
def atDepth (limit depth : Nat) (d : Data) : Data := if limit < depth then .unreadable else d

mutual

/-- `depth` arrays and objects are open around the value. -/
def readValue (limit : Nat) : Nat → Nat → List Char → Option (Data × List Char)
  | 0, _, _ => none
  | fuel + 1, depth, cs =>
    match skipBlanks cs with
    | '"' :: rest => (readString rest).map fun (s, tail) =>
        ((s.map Data.string).getD .unreadable, tail)
    | '[' :: rest =>
      match skipBlanks rest with
      | ']' :: tail => some (atDepth limit (depth + 1) (.array []), tail)
      | _ => (readItems limit fuel (depth + 1) rest).map fun (ds, tail) =>
          (atDepth limit (depth + 1) (.array ds), tail)
    | '\x7b' :: rest =>
      match skipBlanks rest with
      | '\x7d' :: tail => some (atDepth limit (depth + 1) (.table []), tail)
      | _ => (readEntries limit fuel (depth + 1) rest).map fun (es, tail) =>
          (atDepth limit (depth + 1) (tableOf es), tail)
    | 't' :: rest => readWord "rue" (.bool true) rest
    | 'f' :: rest => readWord "alse" (.bool false) rest
    | 'n' :: rest => readWord "ull" .null rest
    | rest => readNumber rest

def readItems (limit : Nat) : Nat → Nat → List Char → Option (List Data × List Char)
  | 0, _, _ => none
  | fuel + 1, depth, cs => do
    let (d, rest) ← readValue limit fuel depth cs
    match skipBlanks rest with
    | ',' :: more =>
      let (ds, tail) ← readItems limit fuel depth more
      some (d :: ds, tail)
    | ']' :: tail => some ([d], tail)
    | _ => none

def readEntries (limit : Nat) : Nat → Nat → List Char → Option (List (Option String × Data) × List Char)
  | 0, _, _ => none
  | fuel + 1, depth, cs =>
    match skipBlanks cs with
    | '"' :: rest => do
      let (key, rest) ← readString rest
      match skipBlanks rest with
      | ':' :: rest =>
        let (d, rest) ← readValue limit fuel depth rest
        match skipBlanks rest with
        | ',' :: more =>
          let (es, tail) ← readEntries limit fuel depth more
          some ((key, d) :: es, tail)
        | '\x7d' :: tail => some ([(key, d)], tail)
        | _ => none
      | _ => none
    | _ => none

end

/-- One value and blanks around it, with at most `limit` arrays and objects open at once. -/
def parseWithin? (limit : Nat) (s : String) : Option Data :=
  match readValue limit (s.length + 1) 0 s.toList with
  | some (d, rest) => if (skipBlanks rest).isEmpty then some d else none
  | none => none

def parse? (s : String) : Option Data := parseWithin? depthLimit s

end LogTree.Json
