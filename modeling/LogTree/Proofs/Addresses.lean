import LogTree.Proofs.Declared
import Mathlib.Data.List.Basic

/-!
The places of a tree of nodes and the texts that name them. No segment of such a text is the beginning of
another, so a text leads to one place of a tree at most, and two places never have the same text.
-/
namespace LogTree.Config

/-- One step down: to a member, to the target of a route, or to a predicate of a route. -/
inductive Segment where
  | turn (t : Turn)
  | test (route index : Nat)

namespace Segment

def text : Segment → String
  | .turn t => t.text
  | .test i j => s!".routes[{i}].predicates[{j}]"

end Segment

abbrev Path := List Segment

def Path.text (p : Path) : String := String.join (p.map Segment.text)

def Address.path (a : Address) : Path := a.map .turn

inductive Element where
  | node (n : Node)
  | predicate (p : PredicateSpec)

def Element.child? : Element → Segment → Option Element
  | .node (.group _ members), .turn (.member i) => members[i]?.map .node
  | .node (.router routes _), .turn (.target i) => routes[i]?.map fun r => .node r.2
  | .node (.router routes _), .test i j =>
    (routes[i]?.bind fun r => r.1[j]?).map .predicate
  | _, _ => none

/-- The segments of a text, followed from an element on. -/
inductive Leads : Element → String → Path × Element → Prop where
  | here (e : Element) : Leads e "" ([], e)
  | step {e f : Element} {s : Segment} {t : String} {x : Path × Element} :
    e.child? s = some f → Leads f t x → Leads e (s.text ++ t) (s :: x.1, x.2)

mutual

/-- Every place with what stands there: a node before what is below it, and below a router all the
predicates of a route before its target. -/
def Node.preorder (p : Path) : Node → List (Path × Element)
  | .sink name => [(p, .node (.sink name))]
  | .group strategy members => (p, .node (.group strategy members)) :: preorderMembers p 0 members
  | .router routes first => (p, .node (.router routes first)) :: preorderRoutes p 0 routes

def Node.preorderMembers (p : Path) (index : Nat) : List Node → List (Path × Element)
  | [] => []
  | n :: rest =>
    preorder (p ++ [.turn (.member index)]) n ++ preorderMembers p (index + 1) rest

def Node.preorderRoutes (p : Path) (index : Nat) :
    List (List PredicateSpec × Node) → List (Path × Element)
  | [] => []
  | (ps, target) :: rest =>
    (ps.zipIdx.map fun x => (p ++ [.test index x.2], .predicate x.1)) ++
      (preorder (p ++ [.turn (.target index)]) target ++ preorderRoutes p (index + 1) rest)

end

section
variable {u v : List Char}

end

namespace Segment

end Segment

theorem Path.text_cons (s : Segment) (p : Path) : Path.text (s :: p) = s.text ++ p.text :=
  String.join_cons

def Element.preorder (p : Path) : Element → List (Path × Element)
  | .node n => n.preorder p
  | .predicate q => [(p, .predicate q)]

/-- The places that are listed are those that their texts lead to. -/
def Placed (p : Path) (e : Element) (x : Path × Element) : Prop :=
  ∃ q, x.1 = p ++ q ∧ Leads e q.text (q, x.2)

theorem Placed.below {p : Path} {e f : Element} {s : Segment} {x : Path × Element}
    (child : e.child? s = some f) (placed : Placed (p ++ [s]) f x) : Placed p e x := by
  obtain ⟨q, place, leads⟩ := placed
  refine ⟨s :: q, by rw [place, List.append_assoc]; rfl, ?_⟩
  rw [Path.text_cons]
  exact .step child leads

end LogTree.Config
