import LogTree.Context
import LogTree.Record
import LogTree.SinkError
import LogTree.Visit

/-!
Tests of a record. The tests on attributes look for every pair of a list among the visits and stop
as soon as the last pair is found. A custom test may change the state `σ` and may panic.
-/
namespace LogTree

def occursIn {α : Type} [BEq α] (part : List α) : List α → Bool
  | [] => part.isEmpty
  | c :: rest => part.isPrefixOf (c :: rest) || occursIn part rest

/-- A pair that is looked for, and whether it was found. -/
structure Sought (α : Type) where
  key : Key
  expected : α
  found : Bool

structure Search (α : Type) where
  sought : List (Sought α)
  remaining : Nat

namespace Search
variable {α : Type}

def ofPairs (pairs : List (Key × α)) : Search α :=
  ⟨pairs.map fun (k, x) => ⟨k, x, false⟩, pairs.length⟩

/-- The visit satisfies a pair that is still open. -/
def hits (same : α → Value → Bool) (v : Visit) (s : Sought α) : Bool :=
  !s.found && s.key == v.path && same s.expected v.value

/-- Marks what the visit satisfies; goes on while pairs remain. -/
def see (same : α → Value → Bool) : Visitor (Search α) := fun v s =>
  let remaining := s.remaining - s.sought.countP (hits same v)
  (0 < remaining, ⟨s.sought.map fun x => { x with found := x.found || hits same v x }, remaining⟩)

/-- No pairs are always found. -/
def allFound (same : α → Value → Bool) (pairs : List (Key × α)) (attrs : List Attr) : Bool :=
  pairs.isEmpty || (walk (see same) attrs (ofPairs pairs)).2.remaining == 0

end Search

inductive MessageTest where
  | equals (text : String)
  | contains (part : String)
  deriving DecidableEq, Repr

def MessageTest.holds (m : String) : MessageTest → Bool
  | .equals text => m == text
  | .contains part => occursIn part.toList m.toList

inductive Predicate (σ : Type) where
  | level (levels : List Level) (negated : Bool)
  | message (test : MessageTest) (negated : Bool)
  | attrValues (pairs : List (Key × Value))
  | attrKinds (pairs : List (Key × ValueKind))
  | custom (test : Context → Record → σ → Except Payload Bool × σ)

namespace Predicate
variable {σ : Type}

def holds (c : Context) (r : Record) : Predicate σ → σ → Except Payload Bool × σ
  | .level levels negated, s => (.ok (levels.contains r.level != negated), s)
  | .message test negated, s => (.ok (test.holds r.message != negated), s)
  | .attrValues pairs, s => (.ok (Search.allFound (fun x v => x == v) pairs r.attrs), s)
  | .attrKinds pairs, s => (.ok (Search.allFound (fun k v => k == v.kind) pairs r.attrs), s)
  | .custom test, s => test c r s

/-- In order, up to the first that does not hold. -/
def allHold (c : Context) (r : Record) : List (Predicate σ) → σ → Except Payload Bool × σ
  | [], s => (.ok true, s)
  | p :: rest, s =>
    match p.holds c r s with
    | (.ok true, t) => allHold c r rest t
    | other => other

end Predicate
end LogTree
