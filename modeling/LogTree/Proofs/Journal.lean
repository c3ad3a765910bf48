import LogTree.Proofs.Boundary

/-!
Runs that keep a journal. A sink or a test that writes an entry for each call runs in a world that has
the journal beside the state of custom code, and does there what it does without; so the calls that
a node makes can be read off the journal.
-/
namespace LogTree
variable {σ ε : Type}

namespace World

def noting (w : World σ) (journal : List ε) : World (List ε × σ) :=
  ⟨(journal, w.state), w.deliveries, w.ticks, w.events, w.draws, w.drawn⟩

def unnoted (w : World (List ε × σ)) : World σ :=
  ⟨w.state.2, w.deliveries, w.ticks, w.events, w.draws, w.drawn⟩

variable (w : World σ) (journal : List ε)

@[simp] theorem draw_noting (n : Nat) :
    (w.noting journal).draw n = (w.draw n).map id (noting · journal) := rfl

end World

/-- One call of a sink: its place among others, what it was handed and what came of it. -/
structure Attempt where
  place : Nat
  sink : String
  context : Context
  record : Record
  outcome : Outcome

def Attempt.answer (a : Attempt) : Except SinkError Unit :=
  match a.outcome with
  | .fine => .ok ()
  | .failed e => .error e
  | .panicked p => .error (.panic a.sink p.message)

namespace Behaviour

/-- The same sink; it writes an entry for each record that it is handed. -/
def noted (entry : Attempt → ε) (place : Nat) (b : Behaviour σ) : Behaviour (List ε × σ) where
  name := b.name
  enabled := b.enabled
  handle c r w :=
    let (o, v) := b.handle c r w.unnoted
    (o, v.noting (w.state.1 ++ [entry ⟨place, b.name, c, r, o⟩]))

section
variable (entry : Attempt → ε) (place : Nat) (b : Behaviour σ) (c : Context) (r : Record)
  (w : World σ)

def attempt : Attempt := ⟨place, b.name, c, r, (b.handle c r w).1⟩

theorem answer_attempt : (b.attempt place c r w).answer = (b.guarded c r w).1 := by
  rw [guarded_eq_fence, attempt, Attempt.answer]
  rcases b.handle c r w with ⟨_ | _ | _, v⟩ <;> rfl

theorem guarded_noted (journal : List ε) :
    (b.noted entry place).guarded c r (w.noting journal) =
      (b.guarded c r w).map id (World.noting · (journal ++ [entry (b.attempt place c r w)])) := by
  have called : (b.noted entry place).handle c r (w.noting journal) =
      (b.handle c r w).map id (World.noting · (journal ++ [entry (b.attempt place c r w)])) := rfl
  rw [guarded_eq_fence, guarded_eq_fence, called]
  rcases b.handle c r w with ⟨_ | _ | _, v⟩ <;> rfl

end
end Behaviour
end LogTree
