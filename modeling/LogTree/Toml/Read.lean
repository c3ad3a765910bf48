import LogTree.Toml.Quoted
import LogTree.Toml.Tree

/-! Reading TOML: a document is a list of statements, one a line, whose tables make one tree. -/
namespace LogTree.Toml

/-- How many arrays and tables may be open at once inside a value. -/
def depthLimit : Nat := 80

def skipBlanks (cs : List Char) : List Char := cs.dropWhile isBlank

/-- Skips blanks, line breaks and comments; a control character in a comment is refused. -/
def skipGap : Bool → List Char → Option (List Char)
  | _, [] => some []
  | _, '\r' :: '\n' :: rest => skipGap false rest
  | inComment, c :: rest =>
    if c == '\n' then skipGap false rest
    else if inComment then (if isControl c then none else skipGap true rest)
    else if isBlank c then skipGap false rest
    else if c == '#' then skipGap true rest
    else some (c :: rest)

/-- Nothing but blanks and a comment may stand before the end of a line. -/
def endLine (cs : List Char) : Option (List Char) :=
  match skipBlanks cs with
  | '#' :: rest =>
    let comment := rest.takeWhile fun c => c != '\n' && c != '\r'
    if comment.any isControl then none else closeLine (rest.drop comment.length)
  | rest => closeLine rest
where
  closeLine : List Char → Option (List Char)
    | [] => some []
    | '\n' :: rest => some rest
    | '\r' :: '\n' :: rest => some rest
    | _ => none

/-- How many tables a key with points may pass through. -/
def pathLimit : Nat := 80

/-- Keys with points between them; blanks around a point count for nothing. -/
def readKeys : Nat → List Char → Option (KeyPath × List Char)
  | 0, _ => none
  | fuel + 1, cs => do
    let (key, rest) ← readKey? cs
    match skipBlanks rest with
    | '.' :: more =>
      let (path, tail) ← readKeys fuel (skipBlanks more)
      some ({ path with tables := key :: path.tables }, tail)
    | tail => some (⟨[], key⟩, tail)

def readPath (fuel : Nat) (cs : List Char) : Option (KeyPath × List Char) := do
  let (path, rest) ← readKeys fuel cs
  if path.tables.length < pathLimit then some (path, rest) else none

def endsScalar (c : Char) : Bool := "=,[]\x7b\x7d \t#\r\n".toList.contains c

/-- A date and a time may have one blank between them. -/
def readScalar (cs : List Char) : Option (Data × List Char) :=
  let first := cs.takeWhile (!endsScalar ·)
  let rest := cs.drop first.length
  match rest with
  | ' ' :: d :: more =>
    let second := (d :: more).takeWhile (!endsScalar ·)
    if d.isDigit && (readDate first).any (·.2.isEmpty) then
      (scalar? (first ++ ' ' :: second)).map (·, (d :: more).drop second.length)
    else (scalar? first).map (·, rest)
  | _ => (scalar? first).map (·, rest)

mutual

/-- `depth` arrays and tables are open around the value. -/
def readValue : Nat → Nat → List Char → Option (Data × List Char)
  | 0, _, _ => none
  | fuel + 1, depth, cs =>
    match readString? cs with
    | some found => found.map fun (s, rest) => (.string (String.ofList s), rest)
    | none =>
      match cs with
      | '[' :: rest =>
        if depthLimit ≤ depth then none
        else (readItems fuel (depth + 1) rest).map fun (ds, tail) => (.array ds, tail)
      | '\x7b' :: rest =>
        if depthLimit ≤ depth then none
        else do
          let (es, tail) ← readEntries fuel (depth + 1) rest
          some (← tableOf? es, tail)
      | _ => readScalar cs

def readItems : Nat → Nat → List Char → Option (List Data × List Char)
  | 0, _, _ => none
  | fuel + 1, depth, cs => do
    match ← skipGap false cs with
    | ']' :: tail => some ([], tail)
    | start =>
      let (d, rest) ← readValue fuel depth start
      match ← skipGap false rest with
      | ',' :: more =>
        let (ds, tail) ← readItems fuel depth more
        some (d :: ds, tail)
      | ']' :: tail => some ([d], tail)
      | _ => none

def readEntries : Nat → Nat → List Char → Option (List (KeyPath × Data) × List Char)
  | 0, _, _ => none
  | fuel + 1, depth, cs => do
    match ← skipGap false cs with
    | '\x7d' :: tail => some ([], tail)
    | start =>
      let (key, rest) ← readPath fuel start
      match ← skipGap false rest with
      | '=' :: rest =>
        let (d, rest) ← readValue fuel depth (← skipGap false rest)
        match ← skipGap false rest with
        | ',' :: more =>
          let (es, tail) ← readEntries fuel depth more
          some ((key, d) :: es, tail)
        | '\x7d' :: tail => some ([(key, d)], tail)
        | _ => none
      | _ => none

end

def readStatement (fuel : Nat) : List Char → Option (Statement × List Char)
  | '[' :: '[' :: rest => do
    match ← readPath fuel (skipBlanks rest) with
    | (key, ']' :: ']' :: tail) => some (.element key, ← endLine tail)
    | _ => none
  | '[' :: rest => do
    match ← readPath fuel (skipBlanks rest) with
    | (key, ']' :: tail) => some (.table key, ← endLine tail)
    | _ => none
  | cs => do
    match ← readPath fuel cs with
    | (key, '=' :: rest) =>
      let (d, tail) ← readValue fuel 0 (skipBlanks rest)
      some (.entry key d, ← endLine tail)
    | _ => none

/-- Every statement takes at least one character, so `fuel` may be their number. -/
def readStatements (inner : Nat) : Nat → List Char → Option (List Statement)
  | 0, _ => none
  | fuel + 1, cs => do
    match ← skipGap false cs with
    | [] => some []
    | start =>
      let (s, rest) ← readStatement inner start
      let ss ← readStatements inner fuel rest
      some (s :: ss)

/-- A byte order mark at the start counts for nothing. -/
def dropMark : List Char → List Char
  | '\ufeff' :: rest => rest
  | cs => cs

def parse? (s : String) : Option Data :=
  let fuel := 2 * s.length + 2
  (readStatements fuel fuel (dropMark s.toList)).bind ofStatements?

end LogTree.Toml
