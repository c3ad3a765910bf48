import LogTree.Level
import LogTree.Value

/-! One structured log event. -/
namespace LogTree

structure Record where
  time : Instant
  level : Level
  message : String
  attrs : List Attr
  deriving Inhabited

namespace Record

def bare (r : Record) : Record := { r with attrs := [] }

def addAttrs (r : Record) (attrs : List Attr) : Record := { r with attrs := r.attrs ++ attrs }

def withAttr (r : Record) (a : Attr) : Record := r.addAttrs [a]

@[simp] theorem attrs_bare (r : Record) : r.bare.attrs = [] := rfl

@[simp] theorem attrs_addAttrs (r : Record) (as : List Attr) :
    (r.addAttrs as).attrs = r.attrs ++ as := rfl

end Record
end LogTree
