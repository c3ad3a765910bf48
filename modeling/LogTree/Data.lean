/-!
Values of a document, whatever its notation. `unreadable` is a value that is written well but stands
for nothing, such as a number out of range: a document may hold one only where nobody reads it.
-/
namespace LogTree

inductive Data where
  | null
  | bool (value : Bool)
  | int (value : Int)
  | float (value : Float)
  | string (text : String)
  | array (items : List Data)
  /-- Entries in the order of the document. -/
  | table (entries : List (String × Data))
  | unreadable

namespace Data

instance : Inhabited Data := ⟨.null⟩

mutual

/-- Nothing unreadable anywhere inside. -/
def isReadable : Data → Bool
  | .unreadable => false
  | .array items => areReadable items
  | .table entries => entriesReadable entries
  | _ => true

def areReadable : List Data → Bool
  | [] => true
  | d :: rest => isReadable d && areReadable rest

def entriesReadable : List (String × Data) → Bool
  | [] => true
  | (_, d) :: rest => isReadable d && entriesReadable rest

end

def asString? : Data → Option String
  | .string s => some s
  | _ => none

def asBool? : Data → Option Bool
  | .bool b => some b
  | _ => none

def asArray? : Data → Option (List Data)
  | .array items => some items
  | _ => none

/-- The first entry of that name in a table. -/
def get? (key : String) : Data → Option Data
  | .table entries => (entries.find? (·.1 == key)).map Prod.snd
  | _ => none

end Data
end LogTree
