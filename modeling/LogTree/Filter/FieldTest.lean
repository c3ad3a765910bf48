import LogTree.Decimal.Layout
import LogTree.Decimal.Read
import LogTree.Filter.Pattern
import LogTree.Value.Text

/-! Tests of a field's value, and their order: the kind comes first, then the value. -/
namespace LogTree

inductive ValueTest where
  | bool (b : Bool)
  | float (x : Float)
  | nan
  | natural (n : Nat)
  | integer (n : Int)
  | pattern (s : String)

namespace ValueTest

def ofFloat (x : Float) : ValueTest := if x.isNaN then .nan else .float x

/-- The plainest kind that the text can be; what is no pattern either is refused. -/
def ofText? (s : String) : Option ValueTest :=
  if s == "true" then some (.bool true)
  else if s == "false" then some (.bool false)
  else
    let natural := if s.startsWith "-" then none else Decimal.readInt? 0 (Int.pow 2 64 - 1) s
    match natural, Decimal.readInt? (-Int.pow 2 63) (Int.pow 2 63 - 1) s,
        Decimal.readFloat? s with
    | some n, _, _ => some (.natural n.toNat)
    | none, some n, _ => some (.integer n)
    | none, none, some x => some (ofFloat x)
    | none, none, none => if Pattern.isWellFormed s then some (.pattern s) else none

def text : ValueTest → String
  | .bool b => boolText b
  | .float x => Value.floatStyle.text x
  | .nan => "NaN"
  | .natural n => toString n
  | .integer n => toString n
  | .pattern s => s

def rank : ValueTest → Nat
  | .bool _ => 0
  | .float _ => 1
  | .nan => 2
  | .natural _ => 3
  | .integer _ => 4
  | .pattern _ => 5

def order : ValueTest → ValueTest → Ordering
  | .bool a, .bool b => compare a b
  | .float x, .float y => if x < y then .lt else if y < x then .gt else .eq
  | .natural m, .natural n => compare m n
  | .integer m, .integer n => compare m n
  | .pattern s, .pattern t => compare s t
  | a, b => compare a.rank b.rank

end ValueTest

/-- A field that must be there, with a value if one is asked for. -/
structure FieldTest where
  name : String
  value : Option ValueTest

namespace FieldTest

/-- A name, and a value after `=`; what a second `=` brings counts for nothing. -/
def ofText? (s : String) : Option FieldTest :=
  match s.splitOn "=" with
  | name :: value :: _ => (ValueTest.ofText? value).map fun v => ⟨name, some v⟩
  | _ => some ⟨s, none⟩

def text (f : FieldTest) : String :=
  match f.value with
  | some v => f.name ++ "=" ++ v.text
  | none => f.name

/-- A test without a value comes first, then names and values decide. -/
def order (f g : FieldTest) : Ordering :=
  match f.value, g.value with
  | none, some _ => .lt
  | some _, none => .gt
  | some v, some w => (compare f.name g.name).then (v.order w)
  | none, none => compare f.name g.name

end FieldTest
end LogTree
