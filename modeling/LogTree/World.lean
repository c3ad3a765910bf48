import LogTree.Event
import LogTree.Scope

/-!
What running a sink changes: the state of custom code, the deliveries to leaves, the ticks of meters,
the events, and the place in the stream of rotation draws. Buffers and counters are views of the
deliveries and the ticks.
-/
namespace LogTree

abbrev BufferId := Nat

abbrev MeterId := Nat

structure Delivery where
  sink : String
  scope : Scope
  record : Record
  /-- The buffer that keeps it, for a leaf that has one. -/
  buffer : Option BufferId

inductive Tick where
  | handled
  | failed
  | filtered
  deriving DecidableEq, Repr

structure World (σ : Type) where
  state : σ
  deliveries : Array Delivery
  ticks : Array (MeterId × Tick)
  events : Array Event
  draws : Nat → Nat
  drawn : Nat

/-- Counters are words of 64 bits and wrap. -/
structure Counters where
  handled : UInt64
  failed : UInt64
  filtered : UInt64
  deriving DecidableEq, Repr, Inhabited

namespace World
variable {σ : Type}

def start (state : σ) (draws : Nat → Nat) : World σ := ⟨state, #[], #[], #[], draws, 0⟩

def deliver (w : World σ) (d : Delivery) : World σ :=
  { w with deliveries := w.deliveries.push d }

def tick (w : World σ) (m : MeterId) (t : Tick) : World σ := { w with ticks := w.ticks.push (m, t) }

def note (w : World σ) (e : Event) : World σ := { w with events := w.events.push e }

/-- The next draw, below `n`. -/
def draw (w : World σ) (n : Nat) : Nat × World σ :=
  (w.draws w.drawn % n, { w with drawn := w.drawn + 1 })

/-- Runs custom code, which sees its own state only. -/
def runState {α : Type} (w : World σ) (f : σ → α × σ) : α × World σ :=
  let (a, s) := f w.state
  (a, { w with state := s })

/-- What a buffer holds: each record as its leaf sees it. -/
def buffer (w : World σ) (b : BufferId) : List Record :=
  w.deliveries.toList.filterMap fun d =>
    if d.buffer = some b then some (d.scope.view d.record) else none

def clear (w : World σ) (b : BufferId) : World σ :=
  { w with deliveries := w.deliveries.filter fun d => d.buffer ≠ some b }

def count (w : World σ) (m : MeterId) (t : Tick) : UInt64 :=
  (w.ticks.toList.countP (· = (m, t))).toUInt64

def counters (w : World σ) (m : MeterId) : Counters :=
  ⟨w.count m .handled, w.count m .failed, w.count m .filtered⟩

end World
end LogTree
