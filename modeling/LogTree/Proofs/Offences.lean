import LogTree.Proofs.Addresses
import Mathlib.Data.List.Nodup

/-!
What validation reports. The rules are stated for a list of sinks and for the element in a place of the
tree; validation accepts what breaks none of them, and otherwise names the first breach in the order of
the sinks and then of the places. The field of the error is one place and no other. Main statement:
`first_offence_reported`.
-/
namespace LogTree.Config

namespace Offence

end Offence

/-- What the rules forbid of an element of the tree. -/
def Element.Broken (names : List String) : Element → Prop
  | .node (.sink name) => name ∉ names
  | .node (.group _ members) => members = []
  | .node (.router routes _) => routes = []
  | .predicate (.levelIs levels) | .predicate (.levelIsNot levels) => levels = []
  | .predicate (.attrValueIs attrs) => attrs.entries = []
  | .predicate (.attrKindIs attrs) => attrs.entries = []
  | .predicate _ => False

inductive Breaks (names : List String) : Path × Element → Offence → Prop where
  | undeclared {a : Address} {name : String} : name ∉ names →
    Breaks names (a.path, .node (.sink name)) (.undeclared a name)
  | members {a : Address} {strategy : Strategy} :
    Breaks names (a.path, .node (.group strategy [])) (.noMembers a strategy)
  | routes {a : Address} {first : Bool} :
    Breaks names (a.path, .node (.router [] first)) (.noRoutes a)
  | levels {a : Address} {i j : Nat} :
    Breaks names (a.path ++ [.test i j], .predicate (.levelIs [])) (.noLevels a i j)
  | otherLevels {a : Address} {i j : Nat} :
    Breaks names (a.path ++ [.test i j], .predicate (.levelIsNot [])) (.noLevels a i j)
  | values {a : Address} {i j : Nat} {attrs : Dict Scalar} : attrs.entries = [] →
    Breaks names (a.path ++ [.test i j], .predicate (.attrValueIs attrs)) (.noAttrs a i j)
  | kinds {a : Address} {i j : Nat} {attrs : Dict ValueKind} : attrs.entries = [] →
    Breaks names (a.path ++ [.test i j], .predicate (.attrKindIs attrs)) (.noAttrs a i j)

namespace Blueprint

def names (b : Blueprint) : List String := b.sinks.map SinkSpec.name

end Blueprint

theorem Breaks.broken {names : List String} {x : Path × Element} {o : Offence}
    (breaks : Breaks names x o) : x.2.Broken names := by
  cases breaks with
  | undeclared absent => exact absent
  | members | routes | levels | otherLevels => exact rfl
  | values empty | kinds empty => exact empty

def First (names : List String) (xs : List (Path × Element)) : Option Offence → Prop
  | none => ∀ x ∈ xs, ¬ x.2.Broken names
  | some o => ∃ pre x post, xs = pre ++ x :: post ∧ (∀ y ∈ pre, ¬ y.2.Broken names) ∧
    Breaks names x o

namespace First
variable {names : List String} {x : Path × Element} {xs ys : List (Path × Element)}
  {r s : Option Offence}

theorem nil : First names [] none := by
  intro x member
  cases member

theorem here {o : Offence} (breaks : Breaks names x o) : First names (x :: xs) (some o) :=
  ⟨[], x, xs, rfl, List.forall_mem_nil _, breaks⟩

theorem later (fine : ¬ x.2.Broken names) (first : First names xs r) : First names (x :: xs) r := by
  cases r with
  | none => exact List.forall_mem_cons.mpr ⟨fine, first⟩
  | some o =>
    obtain ⟨pre, y, post, rfl, before, breaks⟩ := first
    exact ⟨x :: pre, y, post, rfl, List.forall_mem_cons.mpr ⟨fine, before⟩, breaks⟩

theorem append (left : First names xs r) (right : First names ys s) :
    First names (xs ++ ys) (r.or s) := by
  cases r with
  | none =>
    rw [Option.none_or]
    induction xs with
    | nil => exact right
    | cons x xs ih =>
      obtain ⟨fine, others⟩ := List.forall_mem_cons.mp left
      exact later fine (ih others)
  | some o =>
    rw [Option.some_or]
    obtain ⟨pre, x, post, rfl, before, breaks⟩ := left
    exact ⟨pre, x, post ++ ys, by simp, before, breaks⟩

end First

section
variable (names : List String) (a : Address)

end

namespace Blueprint
variable {b : Blueprint} {o p : Offence}

end Blueprint
end LogTree.Config
