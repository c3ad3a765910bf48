import LogTree.Value

/-! Values that a caller passes beside every record. Later values shadow earlier ones. -/
namespace LogTree

structure Context where
  values : List Attr
  deriving Inhabited

namespace Context

def background : Context := ⟨[]⟩

def withValue (c : Context) (key : Key) (value : Value) : Context :=
  ⟨c.values ++ [.mk key value]⟩

def value? (c : Context) (key : Key) : Option Value :=
  (c.values.reverse.find? (·.key == key)).map Attr.value

theorem value?_withValue (c : Context) (key : Key) (v : Value) :
    (c.withValue key v).value? key = some v := by
  simp [value?, withValue]

end Context
end LogTree
