import LogTree.Record

/-!
The groups that are open and the attributes bound so far. A scope is a plain value: deriving gives
a new one. Bound attributes are already nested under their groups.
-/
namespace LogTree

/-- The first group called `name`: what stands before it, its attributes, what stands after it. -/
def splitGroup (name : Key) : List Attr → Option (List Attr × List Attr × List Attr)
  | [] => none
  | .mk key value :: rest =>
    match value with
    | .group inner =>
      if key == name then some ([], inner, rest)
      else (splitGroup name rest).map fun (pre, found, post) => (.mk key value :: pre, found, post)
    | _ => (splitGroup name rest).map fun (pre, found, post) => (.mk key value :: pre, found, post)

/-- Appends under a path of groups, inside existing groups where there are some. -/
def appendUnder : List Key → List Attr → List Attr → List Attr
  | [], actual, new => actual ++ new
  | name :: path, actual, new =>
    match splitGroup name actual with
    | some (pre, inner, post) => pre ++ .group name (appendUnder path inner new) :: post
    | none => actual ++ [.group name (appendUnder path [] new)]

/-- One attribute inside all the groups, each opened anew. -/
def nestIn (groups : List Key) (a : Attr) : Attr := groups.foldr (fun g inner => .group g [inner]) a

structure Scope where
  /-- Outermost first. -/
  groups : List Key
  attrs : List Attr

namespace Scope

def empty : Scope := ⟨[], []⟩

instance : Inhabited Scope := ⟨empty⟩

def isEmpty (s : Scope) : Bool := s.groups.isEmpty && s.attrs.isEmpty

def withAttrs (s : Scope) (attrs : List Attr) : Scope :=
  { s with attrs := appendUnder s.groups s.attrs attrs }

/-- An empty name opens nothing. -/
def withGroup (s : Scope) (name : Key) : Scope :=
  if name == "" then s else { s with groups := s.groups ++ [name] }

/-- Bound attributes, then the record's own, each nested in the open groups. -/
def merged (s : Scope) (r : Record) : List Attr := s.attrs ++ r.attrs.map (nestIn s.groups)

/-- The record as it is seen from inside the scope. -/
def view (s : Scope) (r : Record) : Record := r.bare.addAttrs (s.merged r)

instance : BEq Scope := ⟨fun a b => a.groups == b.groups && Value.beqAttrs a.attrs b.attrs⟩

@[simp] theorem withGroup_empty (s : Scope) : s.withGroup "" = s := rfl

@[simp] theorem attrs_view (s : Scope) (r : Record) : (s.view r).attrs = s.merged r := rfl

end Scope

inductive Derivation where
  | attrs (attrs : List Attr)
  | group (name : Key)

def Scope.derive (s : Scope) : Derivation → Scope
  | .attrs as => s.withAttrs as
  | .group name => s.withGroup name

end LogTree
