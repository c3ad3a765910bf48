import LogTree.Logger
import LogTree.Router

/-!
References to sinks. Only an operation that hands back what it was given leads to the same object
again; a reference to what was just made is equal to no other.
-/
namespace LogTree

structure SinkRef (σ : Type) where
  sink : Sink σ
  /-- Nothing for what was just made. -/
  object : Option Nat

namespace SinkRef
variable {σ : Type}

def made (s : Sink σ) : SinkRef σ := ⟨s, none⟩

def same (r q : SinkRef σ) : Bool := r.object.isSome && r.object == q.object

/-- An object keeps its number; what was just made takes the next. -/
def numbered (next : Nat) (r : SinkRef σ) : SinkRef σ :=
  { r with object := some (r.object.getD next) }

def withAttrs (attrs : List Attr) (r : SinkRef σ) : SinkRef σ := made (r.sink.withAttrs attrs)

/-- An empty name gives the receiver back. -/
def withGroup (name : Key) (r : SinkRef σ) : SinkRef σ :=
  if name == "" then r else made (r.sink.withGroup name)

/-- A logger that binds nothing keeps its sink. -/
def loggerAttrs (attrs : List Attr) (r : SinkRef σ) : SinkRef σ :=
  if attrs.isEmpty then r else r.withAttrs attrs

def members (r : SinkRef σ) : List (SinkRef σ) :=
  match r.sink.fanoutMembers? with
  | some ms => ms.map made
  | none => [r]

/-- A single sink is given back as it is. -/
def fanout (rs : List (SinkRef σ)) : SinkRef σ :=
  match rs.flatMap members with
  | [only] => only
  | flat => made (.spread (flat.map sink))

@[simp] theorem sink_made (s : Sink σ) : (made s).sink = s := rfl

@[simp] theorem sink_numbered (n : Nat) (r : SinkRef σ) : (r.numbered n).sink = r.sink := rfl

@[simp] theorem sink_withAttrs (attrs : List Attr) (r : SinkRef σ) :
    (r.withAttrs attrs).sink = r.sink.withAttrs attrs := rfl

@[simp] theorem sink_withGroup (name : Key) (r : SinkRef σ) :
    (r.withGroup name).sink = r.sink.withGroup name := by
  by_cases h : name = "" <;> simp [withGroup, h]

theorem sink_loggerAttrs (attrs : List Attr) (r : SinkRef σ) (c : Context) :
    (r.loggerAttrs attrs).sink = (Logger.withAttrs ⟨r.sink, c⟩ attrs).sink := by
  unfold loggerAttrs Logger.withAttrs
  split <;> simp

theorem map_sink_members (r : SinkRef σ) :
    r.members.map sink = r.sink.fanoutMembers?.getD [r.sink] := by
  unfold members
  cases r.sink.fanoutMembers? <;> simp [Function.comp_def]

theorem sink_fanout (rs : List (SinkRef σ)) : (fanout rs).sink = Sink.fanout (rs.map sink) := by
  have flat : Sink.flatten (rs.map sink) = (rs.flatMap members).map sink := by
    simp [Sink.flatten, List.map_flatMap, map_sink_members, List.flatMap_map]
  unfold fanout Sink.fanout
  rw [flat]
  match rs.flatMap members with
  | [] => rfl
  | [_] => rfl
  | _ :: _ :: _ => rfl

theorem fanout_alone {r : SinkRef σ} (apart : r.sink.fanoutMembers? = none) : fanout [r] = r := by
  simp [fanout, members, apart]

/-- What a fan-out gives back is one of the sinks it was given. -/
theorem fanout_mem {rs : List (SinkRef σ)} {n : Nat} (known : (fanout rs).object = some n) :
    fanout rs ∈ rs := by
  unfold fanout at known ⊢
  split at known
  case h_1 only alone =>
    have found : only ∈ rs.flatMap members := by simp [alone]
    obtain ⟨r, mem, inside⟩ := List.mem_flatMap.mp found
    unfold members at inside
    cases spread : r.sink.fanoutMembers? with
    | none =>
      have itself : only = r := by simpa [spread] using inside
      exact itself ▸ mem
    | some ms =>
      obtain ⟨s, -, fresh⟩ : ∃ s ∈ ms, made s = only := by simpa [spread] using inside
      simp [← fresh, made] at known
  case h_2 => simp [made] at known

theorem same_withGroup (name : Key) (r : SinkRef σ) (n : Nat) :
    (r.numbered n).same ((r.numbered n).withGroup name) = (name == "") := by
  by_cases h : name = "" <;> simp [same, numbered, withGroup, made, h]

theorem same_loggerAttrs (attrs : List Attr) (r : SinkRef σ) (n : Nat) :
    (r.numbered n).same ((r.numbered n).loggerAttrs attrs) = attrs.isEmpty := by
  cases attrs <;> simp [same, numbered, loggerAttrs, withAttrs, made]

/-- A middleware, and what it does to references. -/
structure Stage (σ : Type) where
  middleware : Middleware σ
  onRef : SinkRef σ → SinkRef σ
  agrees : ∀ r, (onRef r).sink = middleware r.sink

namespace Stage

def making (m : Middleware σ) : Stage σ := ⟨m, fun r => made (m r.sink), fun _ => rfl⟩

def binding (attrs : List Attr) : Stage σ := ⟨_, SinkRef.withAttrs attrs, sink_withAttrs attrs⟩

def opening (name : Key) : Stage σ := ⟨_, SinkRef.withGroup name, sink_withGroup name⟩

end Stage

/-- The first stage is the outermost. -/
def build (p : List (Stage σ)) (r : SinkRef σ) : SinkRef σ :=
  p.foldr (fun m next => m.onRef next) r

theorem sink_build (p : List (Stage σ)) (r : SinkRef σ) :
    (build p r).sink = Pipe.build (p.map Stage.middleware) r.sink := by
  induction p with
  | nil => rfl
  | cons m rest ih =>
    have outer : (build (m :: rest) r).sink = m.middleware (build rest r).sink := m.agrees _
    rw [outer, ih]
    rfl

end SinkRef

/-- A guard in front of a sink that others may refer to as well. -/
structure Routable (σ : Type) where
  guard : Guard σ
  target : SinkRef σ

namespace Routable
variable {σ : Type}

def sink (r : Routable σ) : Sink σ := .routed r.guard r.target.sink

def deriveAttrs (attrs : List Attr) (r : Routable σ) : Routable σ :=
  ⟨r.guard.withAttrs attrs, r.target.withAttrs attrs⟩

/-- An empty name gives a plain copy. -/
def deriveGroup (name : Key) (r : Routable σ) : Routable σ :=
  ⟨r.guard.withGroup name, r.target.withGroup name⟩

theorem sink_deriveAttrs (attrs : List Attr) (r : Routable σ) :
    (r.deriveAttrs attrs).sink = r.sink.withAttrs attrs := by
  simp [sink, deriveAttrs, Sink.withAttrs]

theorem sink_deriveGroup (name : Key) (r : Routable σ) :
    (r.deriveGroup name).sink = r.sink.withGroup name := by
  by_cases h : name = ""
  · simp [sink, deriveGroup, Guard.withGroup, h]
  · simp [sink, deriveGroup, Sink.withGroup, h]

end Routable
end LogTree
