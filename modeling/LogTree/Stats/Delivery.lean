import LogTree.Dict
import LogTree.Stats.Running
import LogTree.World

/-! What came of the records that were emitted, and the last counters of each sink. -/
namespace LogTree

/-- The two counts do not wrap, so they are right for fewer than 2^64 records. -/
structure Delivery.Summary (α : Type) where
  total : Nat
  failed : Nat
  latency : Running α
  counters : Dict Counters

namespace Delivery.Summary
variable {α : Type} [Quantity α]

def empty : Summary α := ⟨0, 0, .empty, .empty⟩

def update (s : Summary α) (delivered : Bool) (milliseconds : α) : Summary α :=
  { s with
    total := s.total + 1
    failed := if delivered then s.failed else s.failed + 1
    latency := s.latency.push milliseconds }

/-- The counters of a sink give way to newer ones. -/
def setCounters (s : Summary α) (sink : String) (c : Counters) : Summary α :=
  { s with counters := s.counters.insert sink c }

/-- Failures per hundred records. -/
def failureRate (s : Summary α) : α :=
  if 0 < s.total then
    Quantity.ofCount s.failed / Quantity.ofCount s.total * Quantity.ofCount 100
  else 0

def countersText (sink : String) (c : Counters) : String :=
  s!"  {sink}: handled={c.handled.toNat} failed={c.failed.toNat} filtered={c.filtered.toNat}\n"

def text (s : Summary Float) : String :=
  "=== Delivery Summary ===\n" ++ s!"Records emitted: {s.total}\n" ++
    s!"Failed deliveries: {s.failed} (" ++ Decimal.fixed 2 s.failureRate ++ "%)\n" ++
    "Handle latency (ms): " ++ s.latency.text ++ "\n" ++
    (if s.counters.isEmpty then ""
    else "Per-sink counters:\n" ++
      String.join (s.counters.entries.map fun e => countersText e.1 e.2))

end Delivery.Summary
end LogTree
