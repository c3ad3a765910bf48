import LogTree.Behaviour
import LogTree.Value.Text

/-!
Leaves: where records end. A memory leaf keeps each record as its scope shows it, a log leaf prints
it as an event, a custom leaf runs code of its own. Every call of a leaf is a delivery.
-/
namespace LogTree

/-- The gate of custom code is a function; only its handler has the state. -/
inductive LeafKind (σ : Type) where
  | memory (least : Level) (buffer : BufferId)
  | log (least : Level)
  | custom (enabled : Context → Scope → Level → Except Payload Bool)
      (handle : Context → Scope → Record → σ → Outcome × σ)

structure Leaf (σ : Type) where
  name : String
  scope : Scope
  kind : LeafKind σ

/-- Attributes as `a=1 g.b=2`: groups are flattened into the keys. -/
def flatText (attrs : List Attr) : List String :=
  (leafVisits attrs).map fun v => v.path ++ "=" ++ v.value.text

namespace Leaf
variable {σ : Type}

def withAttrs (l : Leaf σ) (attrs : List Attr) : Leaf σ :=
  { l with scope := l.scope.withAttrs attrs }

def withGroup (l : Leaf σ) (name : Key) : Leaf σ := { l with scope := l.scope.withGroup name }

def buffer? (l : Leaf σ) : Option BufferId :=
  match l.kind with
  | .memory _ b => some b
  | _ => none

def enabled (l : Leaf σ) (c : Context) (level : Level) : Except Payload Bool :=
  match l.kind with
  | .memory least _ => .ok (least ≤ level)
  | .log least => .ok (least ≤ level)
  | .custom enabled _ => enabled c l.scope level

/-- The effective attributes of a record in one line. -/
def renderAttrs (l : Leaf σ) (r : Record) : String := " ".intercalate (flatText (l.scope.merged r))

/-- What is left to do once the delivery is noted. -/
def react (l : Leaf σ) (c : Context) (r : Record) (w : World σ) : Outcome × World σ :=
  match l.kind with
  | .memory _ _ => (.fine, w)
  | .log _ => (.fine, w.note (.logged r.level l.name (l.renderAttrs r) r.message))
  | .custom _ handle => w.runState (handle c l.scope r)

def behaviour (l : Leaf σ) : Behaviour σ where
  name := l.name
  enabled := l.enabled
  handle c r w := l.react c r (w.deliver ⟨l.name, l.scope, r, l.buffer?⟩)

end Leaf
end LogTree
