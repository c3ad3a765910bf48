import LogTree.Leaf

/-!
Trees of sinks. `fanout` and `router` are the ways to build a node that spreads records: a fan-out
never holds a fan-out or exactly one member, and the routes of a first-match node never check twice.
Deriving rebuilds the tree, so every leaf and every guard below keeps its own scope.
-/
namespace LogTree

inductive Sink (σ : Type) where
  | leaf (leaf : Leaf σ)
  /-- Every member gets the record; `Sink.fanout` builds it. -/
  | spread (members : List (Sink σ))
  | failover (members : List (Sink σ))
  | pool (members : List (Sink σ))
  | routed (guard : Guard σ) (target : Sink σ)
  | firstMatch (routes : List (Guard σ × Sink σ))
  | recovered (recovery : Recovery σ) (next : Sink σ)
  | metered (meter : MeterId) (next : Sink σ)
  | hooked (hooks : Hooks) (next : Sink σ)

namespace Sink
variable {σ : Type}

mutual

def behaviour : Sink σ → Behaviour σ
  | .leaf l => l.behaviour
  | .spread ms => .fanout (behaviours ms)
  | .failover ms => .failover (behaviours ms)
  | .pool ms => .pool (behaviours ms)
  | .routed g t => .routed g (behaviour t)
  | .firstMatch rs => .firstMatch (routeBehaviours rs)
  | .recovered recovery s => .recovered recovery (behaviour s)
  | .metered m s => .metered m (behaviour s)
  | .hooked h s => .hooked h (behaviour s)

def behaviours : List (Sink σ) → List (Behaviour σ)
  | [] => []
  | s :: rest => behaviour s :: behaviours rest

def routeBehaviours : List (Guard σ × Sink σ) → List (Behaviour.Route σ)
  | [] => []
  | (g, s) :: rest => (g, behaviour s) :: routeBehaviours rest

end

theorem behaviours_eq_map (ms : List (Sink σ)) : behaviours ms = ms.map behaviour := by
  induction ms with
  | nil => simp [behaviours]
  | cons s rest ih => simp [behaviours, ih]

theorem routeBehaviours_eq_map (rs : List (Guard σ × Sink σ)) :
    routeBehaviours rs = rs.map fun x => (x.1, x.2.behaviour) := by
  induction rs with
  | nil => simp [routeBehaviours]
  | cons r rest ih => obtain ⟨g, s⟩ := r; simp [routeBehaviours, ih]

def name (s : Sink σ) : String := s.behaviour.name

def enabled (s : Sink σ) : Context → Level → Except Payload Bool := s.behaviour.enabled

def handle (s : Sink σ) : Context → Record → World σ → Outcome × World σ := s.behaviour.handle

def fanoutMembers? : Sink σ → Option (List (Sink σ))
  | .spread ms => some ms
  | _ => none

/-- Members of fan-outs take their place, in order. -/
def flatten (ms : List (Sink σ)) : List (Sink σ) :=
  ms.flatMap fun s => s.fanoutMembers?.getD [s]

/-- A single sink needs no fan-out. -/
def fanout (ms : List (Sink σ)) : Sink σ :=
  match flatten ms with
  | [only] => only
  | flat => .spread flat

/-- The node that looks for a match first marks its routes as checked. -/
def firstMatchOf (rs : List (Guard σ × Sink σ)) : Sink σ :=
  .firstMatch (rs.map fun r => (r.1.skipping, r.2))

/-- Routes in order; one delivery at most if `first`, else to every route that matches. -/
def router (first : Bool) (rs : List (Guard σ × Sink σ)) : Sink σ :=
  if first then firstMatchOf rs else fanout (rs.map fun r => .routed r.1 r.2)

mutual

/-- Binds attributes below the open groups. -/
def withAttrs (attrs : List Attr) : Sink σ → Sink σ
  | .leaf l => .leaf (l.withAttrs attrs)
  | .spread ms => fanout (withAttrsEach attrs ms)
  | .failover ms => .failover (withAttrsEach attrs ms)
  | .pool ms => .pool (withAttrsEach attrs ms)
  | .routed g t => .routed (g.withAttrs attrs) (withAttrs attrs t)
  | .firstMatch rs => firstMatchOf (withAttrsRoutes attrs rs)
  | .recovered recovery s => .recovered recovery (withAttrs attrs s)
  | .metered m s => .metered m (withAttrs attrs s)
  | .hooked h s => .hooked h (withAttrs ((h.onAttrs.getD id) attrs) s)

def withAttrsEach (attrs : List Attr) : List (Sink σ) → List (Sink σ)
  | [] => []
  | s :: rest => withAttrs attrs s :: withAttrsEach attrs rest

def withAttrsRoutes (attrs : List Attr) : List (Guard σ × Sink σ) → List (Guard σ × Sink σ)
  | [] => []
  | (g, s) :: rest => (g.withAttrs attrs, withAttrs attrs s) :: withAttrsRoutes attrs rest

end

mutual

/-- Opens a group; a name that is empty, or that a hook makes empty, opens none below. -/
def withGroup (name : Key) : Sink σ → Sink σ
  | .leaf l => if name == "" then .leaf l else .leaf (l.withGroup name)
  | .spread ms => if name == "" then .spread ms else fanout (withGroupEach name ms)
  | .failover ms => if name == "" then .failover ms else .failover (withGroupEach name ms)
  | .pool ms => if name == "" then .pool ms else .pool (withGroupEach name ms)
  | .routed g t =>
    if name == "" then .routed g t else .routed (g.withGroup name) (withGroup name t)
  | .firstMatch rs =>
    if name == "" then .firstMatch rs else firstMatchOf (withGroupRoutes name rs)
  | .recovered recovery s =>
    if name == "" then .recovered recovery s else .recovered recovery (withGroup name s)
  | .metered m s => if name == "" then .metered m s else .metered m (withGroup name s)
  | .hooked h s =>
    if name == "" then .hooked h s else .hooked h (withGroup ((h.onGroup.getD id) name) s)

def withGroupEach (name : Key) : List (Sink σ) → List (Sink σ)
  | [] => []
  | s :: rest => withGroup name s :: withGroupEach name rest

def withGroupRoutes (name : Key) : List (Guard σ × Sink σ) → List (Guard σ × Sink σ)
  | [] => []
  | (g, s) :: rest => (g.withGroup name, withGroup name s) :: withGroupRoutes name rest

end

theorem withAttrsEach_eq_map (attrs : List Attr) (ms : List (Sink σ)) :
    withAttrsEach attrs ms = ms.map (withAttrs attrs) := by
  induction ms with
  | nil => simp [withAttrsEach]
  | cons s rest ih => simp [withAttrsEach, ih]

theorem withGroupEach_eq_map (name : Key) (ms : List (Sink σ)) :
    withGroupEach name ms = ms.map (withGroup name) := by
  induction ms with
  | nil => simp [withGroupEach]
  | cons s rest ih => simp [withGroupEach, ih]

@[simp] theorem withGroup_empty (s : Sink σ) : s.withGroup "" = s := by
  cases s <;> simp [withGroup]

def derive (s : Sink σ) : Derivation → Sink σ
  | .attrs as => s.withAttrs as
  | .group name => s.withGroup name

end Sink

abbrev Middleware (σ : Type) := Sink σ → Sink σ

/-- A chain of middlewares; the first is the outermost. -/
abbrev Pipe (σ : Type) := List (Middleware σ)

namespace Pipe
variable {σ : Type}

def pipe (p : Pipe σ) (m : Middleware σ) : Pipe σ := p ++ [m]

def build (p : Pipe σ) (s : Sink σ) : Sink σ := p.foldr (fun m next => m next) s

end Pipe
end LogTree
