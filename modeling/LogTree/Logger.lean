import LogTree.Sink

/-! The front that callers use: a sink with a context. -/
namespace LogTree

structure Logger (σ : Type) where
  sink : Sink σ
  context : Context

namespace Logger
variable {σ : Type}

def new (s : Sink σ) : Logger σ := ⟨s, .background⟩

def withContext (l : Logger σ) (c : Context) : Logger σ := { l with context := c }

/-- Binding nothing leaves the logger as it is. -/
def withAttrs (l : Logger σ) (attrs : List Attr) : Logger σ :=
  if attrs.isEmpty then l else { l with sink := l.sink.withAttrs attrs }

def withGroup (l : Logger σ) (name : Key) : Logger σ := { l with sink := l.sink.withGroup name }

def derive (l : Logger σ) : Derivation → Logger σ
  | .attrs as => l.withAttrs as
  | .group name => l.withGroup name

def enabled (l : Logger σ) (level : Level) : Except Payload Bool := l.sink.enabled l.context level

/-- A disabled level makes no record. -/
def log (l : Logger σ) (now : Instant) (level : Level) (message : String) (attrs : List Attr)
    (w : World σ) : Outcome × World σ :=
  match l.enabled level with
  | .error p => (.panicked p, w)
  | .ok false => (.fine, w)
  | .ok true => l.sink.handle l.context ⟨now, level, message, attrs⟩ w

end Logger
end LogTree
