import LogTree.Config.Blueprint
import LogTree.Config.Error
import LogTree.Sink

/-!
Leaves by name. A memory leaf made from a configuration can be looked into by its name for as long
as no other leaf takes that name.
-/
namespace LogTree
open Config

structure MemoryHandle where
  least : Level
  buffer : BufferId
  deriving DecidableEq, Repr, Inhabited

structure Registry (σ : Type) where
  sinks : Dict (Sink σ)
  memory : Dict MemoryHandle

namespace Registry
variable {σ : Type}

def empty : Registry σ := ⟨.empty, .empty⟩

def names (g : Registry σ) : List String := g.sinks.keys

def size (g : Registry σ) : Nat := g.sinks.size

def isEmpty (g : Registry σ) : Bool := g.size == 0

def get? (g : Registry σ) (name : String) : Option (Sink σ) := g.sinks.get? name

def memory? (g : Registry σ) (name : String) : Option MemoryHandle := g.memory.get? name

/-- A leaf made elsewhere takes the name over. -/
def register (g : Registry σ) (name : String) (s : Sink σ) : Registry σ :=
  ⟨g.sinks.insert name s, g.memory.erase name⟩

/-- Replaces every leaf; looks into memory leaves stay as they are. -/
def mapLeaves (g : Registry σ) (f : String → Sink σ → Sink σ) : Registry σ :=
  { g with sinks := g.sinks.mapValues f }

/-- The leaf of a specification; a memory leaf gets the buffer. -/
def leafOf (s : SinkSpec) (buffer : BufferId) : Leaf σ :=
  match s.sinkType with
  | .log => ⟨s.name, .empty, .log s.least⟩
  | .memory => ⟨s.name, .empty, .memory s.least buffer⟩

/-- A name may be declared once. -/
def create (g : Registry σ) (s : SinkSpec) (buffer : BufferId) : Except BuildError (Registry σ) :=
  if g.sinks.contains s.name then .error (.sinkCreation s.name "duplicate sink name")
  else
    let sinks := g.sinks.insert s.name (.leaf (leafOf s buffer))
    match s.sinkType with
    | .log => .ok { g with sinks }
    | .memory => .ok ⟨sinks, g.memory.insert s.name ⟨s.least, buffer⟩⟩

/-- Leaves in the order of their declaration, with buffers from `next` on. -/
def createAll (next : BufferId) (g : Registry σ) :
    List SinkSpec → World σ → Except BuildError (Registry σ) × World σ
  | [], w => (.ok g, w)
  | s :: rest, w =>
    match g.create s next with
    | .error e => (.error e, w)
    | .ok h => createAll (next + 1) h rest (w.note (.leafCreated s.name))

def ofBlueprint (next : BufferId) (b : Blueprint) (w : World σ) :
    Except BuildError (Registry σ) × World σ :=
  createAll next .empty b.sinks w

mutual

def sinkOf (g : Registry σ) : Node → Except BuildError (Sink σ)
  | .sink name =>
    match g.get? name with
    | some s => .ok s
    | none => .error (.unknownSink name)
  | .group strategy members => do
    let ms ← sinksOf g members
    match strategy with
    | .fanout => .ok (Sink.fanout ms)
    | .failover => .ok (.failover ms)
    | .pool => .ok (.pool ms)
  | .router routes first => do
    let rs ← routesOf g routes
    .ok (Sink.router first rs)

def sinksOf (g : Registry σ) : List Node → Except BuildError (List (Sink σ))
  | [] => .ok []
  | n :: rest => do
    let s ← sinkOf g n
    let ss ← sinksOf g rest
    .ok (s :: ss)

def routesOf (g : Registry σ) :
    List (List PredicateSpec × Node) → Except BuildError (List (Guard σ × Sink σ))
  | [] => .ok []
  | (ps, target) :: rest => do
    let s ← sinkOf g target
    let rs ← routesOf g rest
    .ok ((.ofPredicates (ps.map PredicateSpec.predicate), s) :: rs)

end

/-- The tree of a blueprint, inside a recovery if it asks for one. -/
def build (g : Registry σ) (b : Blueprint) (w : World σ) : Except BuildError (Sink σ) × World σ :=
  match g.sinkOf b.root with
  | .error e => (.error e, w)
  | .ok s =>
    (.ok (if b.recover then .recovered .logging s else s), w.note (.treeBuilt g.size))

end Registry
end LogTree
