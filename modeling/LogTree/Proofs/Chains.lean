import LogTree.Proofs.Derived
import LogTree.Proofs.Journal

/-!
Pipes. They are built from the sink outwards, while records, bound attributes and group names go in
from the first middleware on. The chains here hand each record on once; what a middleware says about
levels and makes of answers is left open. Main statement: `pipe_keeps_order`.
-/
namespace LogTree
variable {σ ε : Type}

/-- A middleware that hands each record on once, as it rewrites it, and rewrites what is derived; what
is missing is handed on unchanged. -/
structure Link where
  record : Option (Record → Record)
  /-- The answer, given the one from behind. -/
  answer : String → Context → Record → Except SinkError Unit → Except SinkError Unit
  onEnabled : Option (Context → Level → Except Payload Bool → Except Payload Bool)
  onAttrs : Option (List Attr → List Attr)
  onGroup : Option (Key → Key)

namespace Link

def hooks (l : Link) : Hooks :=
  ⟨l.onEnabled,
    l.record.map fun f name c r => .pass (f r) fun x => .answer (l.answer name c r x),
    l.onAttrs, l.onGroup⟩

def middleware (l : Link) : Middleware σ := Sink.hooked l.hooks

def rewrite (l : Link) (r : Record) : Record := l.record.getD id r

def reply (l : Link) (name : String) (c : Context) (r : Record) : Outcome → Outcome
  | .fine => if l.record.isSome then .ofResult (l.answer name c r (.ok ())) else .fine
  | .failed e => if l.record.isSome then .ofResult (l.answer name c r (.error e)) else .failed e
  | .panicked p => .panicked p

theorem handle_hooked (l : Link) (b : Behaviour σ) (c : Context) (r : Record) (w : World σ) :
    (Behaviour.hooked l.hooks b).handle c r w =
      (b.handle c (l.rewrite r) w).map (l.reply b.name c r) id := by
  unfold Behaviour.hooked hooks rewrite reply
  cases l.record with
  | none =>
    simp only [Option.map_none, Option.getD_none, id]
    rcases b.handle c r w with ⟨_ | _ | _, v⟩ <;> rfl
  | some f =>
    simp only [Option.map_some, Option.getD_some, Plan.run]
    rcases b.handle c (f r) w with ⟨_ | _ | _, v⟩ <;> rfl

end Link

abbrev Chain := List Link

namespace Chain

def pipe (ls : Chain) : Pipe σ := ls.map Link.middleware

def around (ls : Chain) (b : Behaviour σ) : Behaviour σ :=
  ls.foldr (fun l next => .hooked l.hooks next) b

/-- A record, as it comes out of the last middleware. -/
def rewrite (ls : Chain) (r : Record) : Record := ls.foldl (fun r l => l.rewrite r) r

/-- A derivation, as it comes out of the last middleware. -/
def through (ls : Chain) (d : Derivation) : Derivation := ls.foldl (fun d l => l.hooks.through d) d

def reply : Chain → String → Context → Record → Outcome → Outcome
  | [], _, _, _, o => o
  | l :: rest, name, c, r, o => l.reply name c r (reply rest name c (l.rewrite r) o)

theorem name_around (ls : Chain) (b : Behaviour σ) : (ls.around b).name = b.name := by
  induction ls with
  | nil => rfl
  | cons l rest ih => exact ih

theorem handle_around (ls : Chain) (b : Behaviour σ) (c : Context) (r : Record) (w : World σ) :
    (ls.around b).handle c r w = (b.handle c (ls.rewrite r) w).map (ls.reply b.name c r) id := by
  induction ls generalizing r with
  | nil => rfl
  | cons l rest ih =>
    have here := l.handle_hooked (around rest b) c r w
    rw [ih, name_around] at here
    exact here

theorem behaviour_build (ls : Chain) (s : Sink σ) :
    (ls.pipe.build s).behaviour = ls.around s.behaviour := by
  induction ls with
  | nil => rfl
  | cons l rest ih => exact congrArg (Behaviour.hooked l.hooks) ih

theorem derive_build (ls : Chain) (s : Sink σ) (d : Derivation) :
    (ls.pipe.build s).derive d = ls.pipe.build (s.derive (ls.through d)) := by
  induction ls generalizing d with
  | nil => rfl
  | cons l rest ih =>
    have here := Sink.derive_hooked d l.hooks ((pipe rest).build s)
    rw [ih] at here
    exact here

/-- Each derivation goes through the whole chain before the next one comes. -/
theorem derived_build (ls : Chain) (s : Sink σ) (ds : List Derivation) :
    ds.foldl Sink.derive (ls.pipe.build s) =
      ls.pipe.build ((ds.map ls.through).foldl Sink.derive s) := by
  induction ds generalizing s with
  | nil => rfl
  | cons d ds ih => rw [List.foldl_cons, derive_build, ih, List.map_cons, List.foldl_cons]

/-- No middleware gets an empty name to rewrite. -/
theorem through_empty (ls : Chain) : ls.through (.group "") = .group "" := by
  induction ls with
  | nil => rfl
  | cons l rest ih => exact ih

end Chain

def Sink.handleAll (s : Sink σ) : List (List Derivation × Context × Record) → World σ → World σ
  | [], w => w
  | (ds, c, r) :: rest, w => s.handleAll rest ((ds.foldl Sink.derive s).handle c r w).2

namespace Chain

theorem deliveries_handleAll (ls : Chain) (l : Leaf σ)
    (calls : List (List Derivation × Context × Record)) (w : World σ) :
    ((ls.pipe.build (.leaf l)).handleAll calls w).deliveries.toList =
      w.deliveries.toList ++ calls.map fun call =>
        ⟨l.name, (call.1.map ls.through).foldl Scope.derive l.scope, ls.rewrite call.2.2,
          l.buffer?⟩ := by
  induction calls generalizing w with
  | nil => exact (List.append_nil _).symm
  | cons call rest ih =>
    obtain ⟨ds, c, r⟩ := call
    have first : ((ds.foldl Sink.derive (ls.pipe.build (.leaf l))).handle c r w).2.deliveries =
        w.deliveries.push
          ⟨l.name, (ds.map ls.through).foldl Scope.derive l.scope, ls.rewrite r, l.buffer?⟩ := by
      rw [derived_build, Sink.derived_leaf, Sink.handle, behaviour_build, handle_around]
      exact Leaf.deliveries_handle _ c _ w
    rw [Sink.handleAll, ih, first, Array.toList_push, List.append_assoc]
    rfl

end Chain

namespace Pipe

/-- Pipes compose, and what is derived from a chain is the chain around what is derived from the sink
by the same steps, each as the middlewares rewrite it from the first to the last. Whatever the sink
is, it is handed each record once, rewritten in the same order, and the answers come back; a leaf
keeps each record in the scope that those steps make. A group name that becomes empty opens no group
and is not rewritten again. -/
theorem pipe_keeps_order :
    (∀ (xs : Pipe σ) (m : Middleware σ) (s : Sink σ), (xs.pipe m).build s = xs.build (m s)) ∧
    (∀ (xs ys : Pipe σ) (s : Sink σ), build (xs ++ ys) s = xs.build (ys.build s)) ∧
    ∀ ls : Chain,
      (∀ (s : Sink σ) (ds : List Derivation),
        let next := (ds.map ls.through).foldl Sink.derive s
        let chain := ds.foldl Sink.derive (ls.pipe.build s)
        chain = ls.pipe.build next ∧
        ∀ (entry : Attempt → ε) (c : Context) (r : Record) (w : World σ) (journal : List ε),
          let call := next.behaviour.attempt 0 c (ls.rewrite r) w
          (ls.around (next.behaviour.noted entry 0)).handle c r (w.noting journal) =
            (chain.handle c r w).map id (World.noting · (journal ++ [entry call]))) ∧
      (∀ (l : Leaf σ) (calls : List (List Derivation × Context × Record)) (w : World σ),
        ((ls.pipe.build (.leaf l)).handleAll calls w).deliveries.toList =
          w.deliveries.toList ++ calls.map fun call => ⟨l.name,
            (call.1.map ls.through).foldl Scope.derive l.scope, ls.rewrite call.2.2, l.buffer?⟩) ∧
      ls.through (.group "") = .group "" ∧ ∀ scope : Scope, scope.derive (.group "") = scope := by
  refine ⟨fun xs m s => ?_, fun xs ys s => ?_, fun ls => ⟨fun s ds => ⟨?_, ?_⟩, ?_, ?_, ?_⟩⟩
  · exact List.foldr_append
  · exact List.foldr_append
  · exact ls.derived_build s ds
  · intro entry c r w journal call
    rw [ls.derived_build, Sink.handle, ls.behaviour_build, ls.handle_around, ls.handle_around]
    rfl
  · exact ls.deliveries_handleAll
  · exact ls.through_empty
  · exact Scope.withGroup_empty

/-- The second middleware would open a group for any name, but gets none. -/
example : Chain.through
    [⟨none, fun _ _ _ x => x, none, none, some fun _ => ""⟩,
      ⟨none, fun _ _ _ x => x, none, none, some fun name => "app." ++ name⟩]
    (.group "db") = .group "" := rfl

end Pipe
end LogTree
