import LogTree.Filter.FieldTest
import LogTree.Filter.Verbosity
import LogTree.SinkError
import LogTree.Text.Alphanumeric
import LogTree.Text.Blank

/-!
Parts of a filter, such as `target[span{field=value}]=level`. A part is read character by character
with white space at its ends left out, but its pieces are cut from the whole text by the positions
found there, so white space before a part shifts them; a cut inside a character is a panic.
-/
namespace LogTree

/-- A verbosity for a target, a span, a field, or for all the others. -/
structure Directive where
  target : Option String
  span : Option String
  field : Option FieldTest
  verbosity : Verbosity

namespace Directive

/-- Why a text makes no part: it is passed over, or it ends everything. -/
inductive Fault where
  | passedOver
  | panicked (p : Payload)

/-- Where reading stands; a number is the position at which a piece begins. -/
inductive Reading where
  | start
  | bare
  | span (start : Nat)
  | field (start : Nat)
  | fieldDone
  | spanDone
  | verbosity (start : Nat)

/-- The position of a cut inside a character that begins at `place`. -/
def cutFault (edge : String) (place position : Nat) (c : Char) : Fault :=
  .panicked (.text (s!"{edge} byte index {position} is not a char boundary; it is inside '" ++
    Text.escapeChar c ++ s!"' (bytes {place}..{place + c.utf8Size} of string)"))

/-- What follows the first `count` bytes; `place` is the position of the text. -/
def dropBytes (edge : String) (place count : Nat) : List Char → Except Fault (List Char)
  | [] => .ok []
  | c :: rest =>
    if count == 0 then .ok (c :: rest)
    else if count < c.utf8Size then .error (cutFault edge place (place + count) c)
    else dropBytes edge (place + c.utf8Size) (count - c.utf8Size) rest

def cut (cs : List Char) (start stop : Nat) : Except Fault String := do
  let tail ← dropBytes "start" 0 start cs
  let after ← dropBytes "end" 0 stop cs
  return String.ofList (tail.take (tail.length - after.length))

def cutTail (cs : List Char) (start : Nat) : Except Fault String :=
  (dropBytes "start" 0 start cs).map String.ofList

def startsTarget (c : Char) : Bool := ['-', ':', '_'].contains c || Text.isAlphanumeric c

/-- A part before anything is read passes everything. -/
def blank : Directive := ⟨none, none, none, .trace⟩

def withVerbosity (d : Directive) (s : String) : Except Fault Directive :=
  if s == "" then .ok d
  else
    match Verbosity.ofText? s with
    | some v => .ok { d with verbosity := v }
    | none => .error .passedOver

def withField (d : Directive) (s : String) : Except Fault Directive :=
  match if s == "" then none else FieldTest.ofText? s with
  | some f => .ok { d with field := some f }
  | none => .error .passedOver

/-- One character at a position, with what was cut from the whole text before it. -/
def step (whole : List Char) (d : Directive) (i : Nat) (c : Char) :
    Reading → Except Fault (Directive × Reading)
  | .start =>
    if c == '[' then .ok (d, .span (i + 1))
    else if startsTarget c then .ok (d, .bare)
    else .error .passedOver
  | .bare =>
    if c == '=' then do return ({ d with target := some (← cut whole 0 i) }, .verbosity (i + 1))
    else if c == '[' then do return ({ d with target := some (← cut whole 0 i) }, .span (i + 1))
    else .ok (d, .bare)
  | .span a =>
    if c == ']' then do return ({ d with span := some (← cut whole a i) }, .spanDone)
    else if c == '\x7b' then do
      let name ← cut whole a i
      return (if name == "" then d else { d with span := some name }, .field (i + 1))
    else .ok (d, .span a)
  | .field a =>
    if c == '\x7d' then do return (← d.withField (← cut whole a i), .fieldDone)
    else .ok (d, .field a)
  | .fieldDone => if c == ']' then .ok (d, .spanDone) else .error .passedOver
  | .spanDone => if c == '=' then .ok (d, .verbosity (i + 1)) else .error .passedOver
  | .verbosity a => .ok (d, .verbosity a)

/-- A word on its own is a verbosity, or else a target. -/
def finish (whole : List Char) (d : Directive) : Reading → Except Fault Directive
  | .bare =>
    let word := String.ofList whole
    match Verbosity.ofText? word with
    | some v => .ok { d with verbosity := v }
    | none => .ok { d with target := some word }
  | .verbosity a => do d.withVerbosity (← cutTail whole a)
  | .spanDone => .ok d
  | _ => .error .passedOver

def readFrom (whole : List Char) (d : Directive) (i : Nat) (r : Reading) :
    List Char → Except Fault Directive
  | [] => finish whole d r
  | c :: rest => do
    let (d, r) ← step whole d i c r
    readFrom whole d (i + c.utf8Size) r rest

def read (s : String) : Except Fault Directive :=
  readFrom s.toList blank 0 .start (Text.trim s.toList)

def spanText (d : Directive) : String :=
  match d.span, d.field with
  | none, none => ""
  | span, none => "[" ++ span.getD "" ++ "]"
  | span, some f => "[" ++ span.getD "" ++ "\x7b" ++ f.text ++ "\x7d]"

def text (d : Directive) : String :=
  let head := d.target.getD "" ++ d.spanText
  if d.target.isNone && d.spanText == "" then d.verbosity.name else head ++ "=" ++ d.verbosity.name

/-- An order of options in which nothing comes first. -/
def orderOf {α : Type} (order : α → α → Ordering) : Option α → Option α → Ordering
  | none, none => .eq
  | none, some _ => .lt
  | some _, none => .gt
  | some a, some b => order a b

/-- How special a part is: longer targets, then spans, then fields, then the texts. -/
def order (a b : Directive) : Ordering :=
  (orderOf compare (a.target.map String.utf8ByteSize) (b.target.map String.utf8ByteSize)).then
    ((compare a.span.isSome b.span.isSome).then
      ((compare a.field.isSome b.field.isSome).then
        ((orderOf compare a.target b.target).then
          ((orderOf compare a.span b.span).then (orderOf FieldTest.order a.field b.field)))))

/-- Puts a part in its place, the most special ones first; an equal one gives way. -/
def insert (d : Directive) : List Directive → List Directive
  | [] => [d]
  | e :: rest =>
    match d.order e with
    | .eq => d :: rest
    | .gt => d :: e :: rest
    | .lt => e :: insert d rest

/-- Asks for what is known only once a line is written. -/
def isDynamic (d : Directive) : Bool := d.span.isSome || d.field.isSome

/-- Asks for nothing but names that are known before. -/
def isStatic (d : Directive) : Bool := d.span.isNone && (d.field.bind FieldTest.value).isNone

end Directive

/-- Parts in two tables; one that asks for the name of a field stands in both. -/
structure Filter where
  statics : List Directive
  dynamics : List Directive

namespace Filter

def table (ds : List Directive) : List Directive := ds.foldl (fun found d => d.insert found) []

/-- No part at all lets errors pass. -/
def ofDirectives (ds : List Directive) : Filter :=
  let dynamics := ds.filter Directive.isDynamic
  let statics := ds.filter (!·.isDynamic) ++ dynamics.filter Directive.isStatic
  if ds.isEmpty then ⟨[⟨none, none, none, .error⟩], []⟩ else ⟨table statics, table dynamics⟩

/-- Text that makes no part is passed over. -/
def readParts : List String → Except Payload (List Directive)
  | [] => .ok []
  | s :: rest =>
    match Directive.read s with
    | .error (.panicked p) => .error p
    | .error .passedOver => readParts rest
    | .ok d => (readParts rest).map (d :: ·)

def read (s : String) : Except Payload Filter := (readParts (s.splitOn ",")).map ofDirectives

def text (f : Filter) : String := ",".intercalate ((f.statics ++ f.dynamics).map Directive.text)

end Filter
end LogTree
