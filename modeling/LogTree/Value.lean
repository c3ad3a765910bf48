import LogTree.Time.Span

/-!
Attribute values. Groups nest attributes to any depth. Equality is by content, with two exceptions:
floats compare as IEEE numbers, so a NaN differs from itself, and opaque values compare by identity.
-/
namespace LogTree

/-- Keys of attributes and names of groups; the empty key is allowed. -/
abbrev Key := String

mutual

inductive Value where
  | string (text : String)
  | int (value : Int64)
  | uint (value : UInt64)
  | float (value : Float)
  | bool (value : Bool)
  | time (value : Instant)
  | duration (value : Span)
  /-- An error is known by its text. -/
  | error (text : String)
  | group (attrs : List Attr)
  /-- An opaque object is known by its identity. -/
  | any (identity : String)

inductive Attr where
  | mk (key : Key) (value : Value)

end

inductive ValueKind where
  | string
  | int
  | uint
  | float
  | bool
  | time
  | duration
  | error
  | group
  | any
  deriving DecidableEq, Repr, Inhabited

namespace ValueKind

def all : List ValueKind :=
  [.string, .int, .uint, .float, .bool, .time, .duration, .error, .group, .any]

def name : ValueKind → String
  | .string => "string"
  | .int => "int"
  | .uint => "uint"
  | .float => "float"
  | .bool => "bool"
  | .time => "time"
  | .duration => "duration"
  | .error => "error"
  | .group => "group"
  | .any => "any"

def title : ValueKind → String
  | .string => "String"
  | .int => "Int"
  | .uint => "Uint"
  | .float => "Float"
  | .bool => "Bool"
  | .time => "Time"
  | .duration => "Duration"
  | .error => "Error"
  | .group => "Group"
  | .any => "Any"

def ofName? (s : String) : Option ValueKind := all.find? (·.name == s)

theorem ofName?_name (k : ValueKind) : ofName? k.name = some k := by cases k <;> decide

end ValueKind

namespace Attr

def key : Attr → Key
  | .mk k _ => k

def value : Attr → Value
  | .mk _ v => v

def group (key : Key) (attrs : List Attr) : Attr := .mk key (.group attrs)

@[simp] theorem key_mk (k : Key) (v : Value) : (Attr.mk k v).key = k := rfl

@[simp] theorem value_mk (k : Key) (v : Value) : (Attr.mk k v).value = v := rfl

end Attr

namespace Value

instance : Inhabited Value := ⟨.bool false⟩

def kind : Value → ValueKind
  | .string _ => .string
  | .int _ => .int
  | .uint _ => .uint
  | .float _ => .float
  | .bool _ => .bool
  | .time _ => .time
  | .duration _ => .duration
  | .error _ => .error
  | .group _ => .group
  | .any _ => .any

def asString? : Value → Option String
  | .string s => some s
  | _ => none

def asGroup? : Value → Option (List Attr)
  | .group as => some as
  | _ => none

def isGroup (v : Value) : Bool := v.asGroup?.isSome

mutual

def beq : Value → Value → Bool
  | .string a, .string b => a == b
  | .int a, .int b => a == b
  | .uint a, .uint b => a == b
  | .float a, .float b => a == b
  | .bool a, .bool b => a == b
  | .time a, .time b => a == b
  | .duration a, .duration b => a == b
  | .error a, .error b => a == b
  | .group a, .group b => beqAttrs a b
  | .any a, .any b => a == b
  | _, _ => false

def beqAttrs : List Attr → List Attr → Bool
  | [], [] => true
  | .mk k v :: as, .mk l w :: bs => k == l && beq v w && beqAttrs as bs
  | _, _ => false

end

instance : BEq Value := ⟨beq⟩

end Value

def Attr.isGroup (a : Attr) : Bool := a.value.isGroup

instance : BEq Attr := ⟨fun a b => a.key == b.key && a.value == b.value⟩

end LogTree
