/-!
Regular expressions, as far as telling which texts are ones. Literal characters, sets in brackets,
groups, alternatives and repetitions are known; sets that need the tables of Unicode, word boundaries
and letters of either case are not, and neither are counted repetitions.
-/
namespace LogTree.Pattern

def hexValue? (c : Char) : Option Nat :=
  if c.isDigit then some (c.toNat - '0'.toNat)
  else if 'a' ≤ c && c ≤ 'f' then some (c.toNat - 'a'.toNat + 10)
  else if 'A' ≤ c && c ≤ 'F' then some (c.toNat - 'A'.toNat + 10)
  else none

def readHex (count : Nat) (cs : List Char) : Option (Char × List Char) := do
  let ds ← (cs.take count).mapM hexValue?
  let n := ds.foldl (fun n d => n * 16 + d) 0
  if ds.length == count && n.isValidChar then some (Char.ofNat n, cs.drop count) else none

/-- What an escape stands for, after its backslash; an anchor stands for no character. -/
def readEscape : List Char → Option (Option Char × List Char)
  | [] => none
  | c :: rest =>
    match c with
    | 'a' => some (some '\x07', rest)
    | 'f' => some (some '\x0c', rest)
    | 't' => some (some '\t', rest)
    | 'n' => some (some '\n', rest)
    | 'r' => some (some '\r', rest)
    | 'v' => some (some '\x0b', rest)
    | 'A' => some (none, rest)
    | 'z' => some (none, rest)
    | 'x' => (readHex 2 rest).map fun (d, tail) => (some d, tail)
    | 'u' => (readHex 4 rest).map fun (d, tail) => (some d, tail)
    | 'U' => (readHex 8 rest).map fun (d, tail) => (some d, tail)
    | _ =>
      if c.toNat < 128 && !c.isAlphanum && c != '<' && c != '>' then some (some c, rest) else none

def readMember : List Char → Option (Char × List Char)
  | [] => none
  | '\\' :: rest =>
    match readEscape rest with
    | some (some c, tail) => some (c, tail)
    | _ => none
  | c :: rest => some (c, rest)

/-- A character, or a range of them that does not run backwards. -/
def readRange (cs : List Char) : Option (List Char) := do
  let (first, rest) ← readMember cs
  match rest with
  | '-' :: ']' :: _ => some rest
  | '-' :: '-' :: _ => some rest
  | '-' :: more =>
    let (last, tail) ← readMember more
    if first ≤ last then some tail else none
  | _ => some rest

/-- What follows the opening of a set: dashes stand for themselves here, and so does a first bracket. -/
def openSet (cs : List Char) : List Char :=
  let cs := match cs with
    | '^' :: rest => rest
    | _ => cs
  match cs with
  | '-' :: _ => cs.dropWhile (· == '-')
  | ']' :: rest => rest
  | _ => cs

/-- What follows a set; `depth` sets are open around the text. -/
def readSet : Nat → Nat → List Char → Option (List Char)
  | 0, _, _ => none
  | _, _, [] => none
  | fuel + 1, depth, c :: rest =>
    if c == '[' then readSet fuel (depth + 1) (openSet rest)
    else if c == ']' then (if depth == 0 then some rest else readSet fuel (depth - 1) rest)
    else if ['&', '-', '~'].contains c && rest.head? == some c then readSet fuel depth (rest.drop 1)
    else (readRange (c :: rest)).bind (readSet fuel depth)

/-- The opening of a group after its bracket; `false` where nothing was opened. -/
def openGroup : List Char → Option (Bool × List Char)
  | '?' :: 'P' :: '<' :: rest => name rest
  | '?' :: '<' :: rest => name rest
  | '?' :: rest =>
    let flags := rest.takeWhile fun c => c != ':' && c != ')'
    let known := flags.all fun c => ['m', 's', 'U', 'R', 'u', '-'].contains c
    if !known || flags.getLast? == some '-' then none
    else
      match rest.drop flags.length with
      | ':' :: tail => some (true, tail)
      | ')' :: tail => if flags.isEmpty then none else some (false, tail)
      | _ => none
  | cs => some (true, cs)
where
  name (cs : List Char) : Option (Bool × List Char) :=
    let word := cs.takeWhile (· != '>')
    let first := word.head?.any fun c => c == '_' || c.isAlpha
    if first && word.all fun c => c == '_' || c == '.' || c.isAlphanum then
      match cs.drop word.length with
      | '>' :: tail => some (true, tail)
      | _ => none
    else none

/-- Whether the rest of a pattern is well formed inside `depth` groups; `some` tells what can be
repeated there. -/
def checks : Nat → Nat → (repeatable : Bool) → List Char → Bool
  | 0, _, _, _ => false
  | _, depth, _, [] => depth == 0
  | fuel + 1, depth, repeatable, c :: rest =>
    match c with
    | '(' =>
      match openGroup rest with
      | some (true, tail) => checks fuel (depth + 1) false tail
      | some (false, tail) => checks fuel depth false tail
      | none => false
    | ')' => depth != 0 && checks fuel (depth - 1) true rest
    | '|' => checks fuel depth false rest
    | '[' =>
      match readSet fuel 0 (openSet rest) with
      | some tail => checks fuel depth true tail
      | none => false
    | '\\' =>
      match readEscape rest with
      | some (_, tail) => checks fuel depth true tail
      | none => false
    | _ =>
      if c == '*' || c == '+' || c == '?' then repeatable && checks fuel depth true rest
      else c != '\x7b' && checks fuel depth true rest

def isWellFormed (s : String) : Bool := checks (s.length + 1) 0 false s.toList

end LogTree.Pattern
