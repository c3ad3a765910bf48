import LogTree.Proofs.Configured
import LogTree.Proofs.Derived
import Mathlib.Logic.Relation

/-!
Level gates. Only composites, meters and the logger ask for the level, yet no leaf is called that is
not enabled. A run that starts at an enabled node is a path of steps, and a step calls enabled leaves
only. Main statement: `gates_never_bypassed`.
-/
namespace LogTree
open Relation
variable {σ : Type}

/-- One thing that happens while these parts handle a record. -/
inductive Step (parts : List (Part σ)) (c : Context) (r : Record) : World σ → World σ → Prop where
  | noted (w : World σ) (e : Event) : Step parts c r w (w.note e)
  | drawn (w : World σ) (n : Nat) : Step parts c r w (w.draw n).2
  | searched (w : World σ) {g : Guard σ} : .guard g ∈ parts → Step parts c r w (g.isMatch c r w).2
  | reported (w : World σ) {recovery : Recovery σ} (e : SinkError) :
    .recovery recovery ∈ parts → Step parts c r w (recovery.run c r e w)
  | counted (w : World σ) {m : MeterId} {t : Tick} :
    .meter m ∈ parts → t ≠ .filtered → Step parts c r w (w.tick m t)
  | called (w : World σ) {l : Leaf σ} :
    .leaf l ∈ parts → l.enabled c r.level = .ok true → Step parts c r w (l.behaviour.handle c r w).2

theorem passage_steps (parts : List (Part σ)) (c : Context) (r : Record) :
    Passage (ReflTransGen (Step parts c r)) where
  refl _ := .refl
  trans := .trans
  note w e := .single (.noted w e)
  draw w n := .single (.drawn w n)

/-- A hook that could let a record or a level through is missing. -/
def Part.Plain : Part σ → Prop
  | .hooks h => h.onEnabled = none ∧ h.onHandle = none
  | _ => True

theorem Part.Plain.follows {parts : List (Part σ)} {p : Part σ} (plain : p.Plain) (hp : p ∈ parts)
    (c : Context) (r : Record) : p.Follows (ReflTransGen (Step parts c r)) c r True := by
  cases p with
  | leaf l => exact fun on w => .single (.called w hp (on trivial))
  | guard g => exact fun w => .single (.searched w hp)
  | recovery recovery => exact fun w e => .single (.reported w e hp)
  | meter m => exact fun w t kept => .single (.counted w hp (kept trivial))
  | hooks h => exact plain

theorem World.delivers_call {ok : Delivery → Prop} {l : Leaf σ} {r : Record}
    (allowed : ok (l.delivery r)) (c : Context) (w : World σ) :
    World.Delivers ok w (l.behaviour.handle c r w).2 := by
  have frame : Frame (World.Delivers (σ := σ) ok) := World.frame_delivers ok
  have call := World.delivers_deliver allowed w
  simp only [Leaf.behaviour, Leaf.react]
  cases l.kind with
  | memory least b => exact call
  | log least => exact frame.trans call (frame.note _ _)
  | custom enabled handle => exact frame.trans call (frame.state _ _)

def Delivery.Gated (parts : List (Part σ)) (c : Context) (r : Record) (d : Delivery) : Prop :=
  ∃ l, .leaf l ∈ parts ∧ l.enabled c r.level = .ok true ∧ d = l.delivery r

theorem Step.delivers {parts : List (Part σ)} {c : Context} {r : Record} {w v : World σ}
    (step : Step parts c r w v) : World.Delivers (Delivery.Gated parts c r) w v := by
  have frame := World.frame_delivers (σ := σ) (Delivery.Gated parts c r)
  cases step with
  | noted e => exact frame.note w e
  | drawn n => exact frame.draw w n
  | searched _ => exact frame.state w _
  | reported e hp =>
    rename_i recovery
    have keeps : (Part.recovery recovery).Keeps (World.Delivers (Delivery.Gated parts c r)) c r True :=
      trivial
    exact keeps.follows frame w e
  | counted _ _ => exact frame.tick w _ _
  | called hp on => exact World.delivers_call ⟨_, hp, on, rfl⟩ c w

namespace World

/-- How often a meter has counted a record that was turned away; its counter shows this as a word. -/
def turnedAway (w : World σ) (m : MeterId) : Nat :=
  w.ticks.toList.countP (· = (m, .filtered))

theorem filtered_counters (w : World σ) (m : MeterId) :
    (w.counters m).filtered = (w.turnedAway m).toUInt64 := rfl

def Ticks (ok : MeterId × Tick → Prop) (w v : World σ) : Prop :=
  ∃ new, v.ticks.toList = w.ticks.toList ++ new ∧ ∀ x ∈ new, ok x

section
variable {ok : MeterId × Tick → Prop} {u v w : World σ}

theorem ticks_of_eq (h : v.ticks = w.ticks) : Ticks ok w v :=
  ⟨[], by simp [h], by simp⟩

theorem ticks_trans (first : Ticks ok u v) (second : Ticks ok v w) : Ticks ok u w := by
  obtain ⟨xs, grown, all⟩ := first
  obtain ⟨ys, grown', all'⟩ := second
  refine ⟨xs ++ ys, by rw [grown', grown, List.append_assoc], ?_⟩
  exact List.forall_mem_append.mpr ⟨all, all'⟩

/-- What is not ticked is not counted. -/
theorem countP_of_ticks (ticks : Ticks ok w v) {m : MeterId} {t : Tick} (other : ¬ ok (m, t)) :
    v.ticks.toList.countP (· = (m, t)) = w.ticks.toList.countP (· = (m, t)) := by
  obtain ⟨new, grown, all⟩ := ticks
  have none : new.countP (· = (m, t)) = 0 := by
    rw [List.countP_eq_zero]
    intro x hx same
    exact other (of_decide_eq_true same ▸ all x hx)
  rw [grown, List.countP_append, none, Nat.add_zero]

theorem counters_of_ticks_apart (ticks : Ticks ok w v) {m : MeterId} (other : ∀ t, ¬ ok (m, t)) :
    v.counters m = w.counters m := by
  simp only [counters, count, countP_of_ticks ticks (other _)]

end
end World

/-- Only a meter of the tree ticks, and not for a record that is turned away. -/
theorem Step.ticks {parts : List (Part σ)} {c : Context} {r : Record} {w v : World σ}
    (step : Step parts c r w v) :
    World.Ticks (fun x => .meter x.1 ∈ parts ∧ x.2 ≠ .filtered) w v := by
  cases step with
  | noted e => exact World.ticks_of_eq rfl
  | drawn n => exact World.ticks_of_eq rfl
  | searched _ => exact World.ticks_of_eq rfl
  | reported e hp =>
    rename_i recovery
    cases recovery <;> exact World.ticks_of_eq rfl
  | @counted m t hp kept =>
    exact ⟨[(m, t)], by simp [World.tick], List.forall_mem_singleton.mpr ⟨hp, kept⟩⟩
  | called hp on =>
    rename_i l
    apply World.ticks_of_eq
    simp only [Leaf.behaviour, Leaf.react]
    cases l.kind <;> rfl

section
variable {parts : List (Part σ)} {c : Context} {r : Record} {w v : World σ}

theorem delivers_of_steps (path : ReflTransGen (Step parts c r) w v) :
    World.Delivers (Delivery.Gated parts c r) w v := by
  have frame := World.frame_delivers (σ := σ) (Delivery.Gated parts c r)
  induction path with
  | refl => exact frame.refl w
  | tail _ step ih => exact frame.trans ih step.delivers

theorem ticks_of_steps (path : ReflTransGen (Step parts c r) w v) :
    World.Ticks (fun x => .meter x.1 ∈ parts ∧ x.2 ≠ .filtered) w v := by
  induction path with
  | refl => exact World.ticks_of_eq rfl
  | tail _ step ih => exact World.ticks_trans ih step.ticks

theorem turnedAway_of_steps (path : ReflTransGen (Step parts c r) w v) (m : MeterId) :
    v.turnedAway m = w.turnedAway m :=
  World.countP_of_ticks (ticks_of_steps path) fun kept => kept.2 rfl

theorem counters_of_steps (path : ReflTransGen (Step parts c r) w v) {m : MeterId}
    (apart : .meter m ∉ parts) : v.counters m = w.counters m :=
  World.counters_of_ticks_apart (ticks_of_steps path) fun _ counted => apart counted.1

end

namespace Sink

/-- No hook sees a level or a record on its way down. -/
def Open (s : Sink σ) : Prop := ∀ p ∈ s.parts, p.Plain

theorem steps_of_handle {s : Sink σ} (plain : s.Open) {c : Context} {r : Record}
    (on : s.enabled c r.level = .ok true) (w : World σ) :
    ReflTransGen (Step s.parts c r) w (s.handle c r w).2 :=
  handle_follows (passage_steps s.parts c r) True s (fun p hp => (plain p hp).follows hp c r)
    (fun _ => on) w

theorem open_each {ms : List (Sink σ)} {f : Sink σ → Sink σ}
    (each : ∀ s ∈ ms, s.Open → (f s).Open) (plain : ∀ p ∈ partsEach ms, p.Plain) :
    ∀ p ∈ (ms.map f).flatMap parts, p.Plain := by
  intro p hp
  rw [List.flatMap_map] at hp
  obtain ⟨s, hs, hp⟩ := List.mem_flatMap.mp hp
  exact each s hs (fun q hq => plain q (mem_parts_each hs hq)) p hp

theorem open_derive (d : Derivation) {s : Sink σ} (plain : s.Open) : (s.derive d).Open := by
  induction s using induction generalizing d with
  | leaf l =>
    rw [derive_leaf]
    exact List.forall_mem_singleton.mpr trivial
  | spread ms ih =>
    intro p hp
    rw [gathered_derive_spread d parts partsEach_eq_flatMap] at hp
    exact open_each (fun s hs => ih s hs d) plain p hp
  | failover ms ih =>
    intro p hp
    rw [derive_failover, parts, partsEach_eq_flatMap] at hp
    exact open_each (fun s hs => ih s hs d) plain p hp
  | pool ms ih =>
    intro p hp
    rw [derive_pool, parts, partsEach_eq_flatMap] at hp
    exact open_each (fun s hs => ih s hs d) plain p hp
  | firstMatch rs ih =>
    obtain ⟨guard, derived⟩ := derive_firstMatch d rs
    intro p hp
    rw [derived, parts, partsRoutes_eq_flatMap, List.flatMap_map] at hp
    obtain ⟨r, hr, hp⟩ := List.mem_flatMap.mp hp
    cases List.mem_cons.mp hp with
    | inl same => exact same ▸ trivial
    | inr hp => exact ih r hr d (fun q hq => plain q (mem_parts_routes hr hq)) p hp
  | routed g t ih =>
    obtain ⟨_, inner⟩ := List.forall_mem_cons.mp plain
    rw [derive_routed]
    exact List.forall_mem_cons.mpr ⟨trivial, ih d inner⟩
  | recovered x s ih =>
    obtain ⟨here, inner⟩ := List.forall_mem_cons.mp plain
    rw [derive_recovered]
    exact List.forall_mem_cons.mpr ⟨here, ih d inner⟩
  | metered m s ih =>
    obtain ⟨here, inner⟩ := List.forall_mem_cons.mp plain
    rw [derive_metered]
    exact List.forall_mem_cons.mpr ⟨here, ih d inner⟩
  | hooked h s ih =>
    obtain ⟨here, inner⟩ := List.forall_mem_cons.mp plain
    rw [derive_hooked]
    exact List.forall_mem_cons.mpr ⟨here, ih _ inner⟩

theorem open_derived (ds : List Derivation) {s : Sink σ} (plain : s.Open) :
    (ds.foldl derive s).Open := by
  induction ds generalizing s with
  | nil => exact plain
  | cons d ds ih => exact ih (open_derive d plain)

end Sink

namespace Call

def logIn (root : Sink σ) (c : Context) (q : Call) (w : World σ) : Outcome × World σ :=
  ((q.logger root).withContext c).log q.time q.level q.message q.attrs w

def logAllIn (root : Sink σ) : List (Context × Call) → World σ → List Outcome × World σ
  | [], w => ([], w)
  | (c, q) :: rest, w =>
    let (answer, v) := q.logIn root c w
    let (answers, u) := logAllIn root rest v
    (answer :: answers, u)

/-- What a call is made through: a tree that was derived, in the context of the caller. -/
theorem logIn_eq (root : Sink σ) (c : Context) (q : Call) (w : World σ) :
    q.logIn root c w =
      Logger.log ⟨(q.path.filter Derivation.binds).foldl Sink.derive root, c⟩
        q.time q.level q.message q.attrs w := by
  rw [logIn, logger, derive_logger]
  rfl

/-- What every call keeps, a sequence of calls keeps. -/
theorem logAllIn_keeps {R : World σ → World σ → Prop} (refl : ∀ w, R w w)
    (trans : ∀ {u v w}, R u v → R v w → R u w) {root : Sink σ}
    (each : ∀ c (q : Call) w, R w (q.logIn root c w).2) (calls : List (Context × Call))
    (w : World σ) : R w (logAllIn root calls w).2 := by
  induction calls generalizing w with
  | nil => exact refl w
  | cons x rest ih =>
    obtain ⟨c, q⟩ := x
    exact trans (each c q w) (ih (q.logIn root c w).2)

theorem open_logger {root : Sink σ} (plain : root.Open) (q : Call) :
    (q.logger root).sink.Open := by
  rw [logger, derive_logger]
  exact Sink.open_derived _ plain

theorem steps_of_log {root : Sink σ} (plain : root.Open) (c : Context) (q : Call) (w : World σ) :
    ReflTransGen (Step (q.logger root).sink.parts c q.record) w (q.logIn root c w).2 := by
  have derived := open_logger plain q
  simp only [logIn, Logger.log, Logger.enabled, Logger.withContext]
  split
  · exact .refl
  · exact .refl
  · rename_i on
    exact Sink.steps_of_handle derived on w

theorem turnedAway_of_logs {root : Sink σ} (plain : root.Open) (calls : List (Context × Call))
    (w : World σ) (m : MeterId) : (logAllIn root calls w).2.turnedAway m = w.turnedAway m :=
  logAllIn_keeps (R := fun w v => v.turnedAway m = w.turnedAway m) (fun _ => rfl)
    (fun first second => second.trans first)
    (fun c q w => turnedAway_of_steps (steps_of_log plain c q w) m) calls w

end Call

namespace Sink

/-- However a tree is derived, a call through a logger is a path of steps, each of which calls a leaf
only if that leaf takes the level in the context of the call, so what is delivered comes from such
leaves; and no sequence of calls makes a meter count a record that was turned away. -/
theorem gates_never_bypassed {s : Sink σ} (plain : s.Open) (ds : List Derivation) :
    let root := ds.foldl derive s
    (∀ (c : Context) (q : Call) (w : World σ),
      let parts := (q.logger root).sink.parts
      let v := (q.logIn root c w).2
      ReflTransGen (Step parts c q.record) w v ∧
      World.Delivers (Delivery.Gated parts c q.record) w v) ∧
    ∀ (calls : List (Context × Call)) (w : World σ) (m : MeterId),
      let v := (Call.logAllIn root calls w).2
      v.turnedAway m = w.turnedAway m ∧ (v.counters m).filtered = (w.counters m).filtered := by
  intro root
  have derived : root.Open := open_derived ds plain
  constructor
  · intro c q w parts v
    have path := Call.steps_of_log derived c q w
    exact ⟨path, delivers_of_steps path⟩
  · intro calls w m v
    have kept := Call.turnedAway_of_logs derived calls w m
    refine ⟨kept, ?_⟩
    rw [World.filtered_counters, World.filtered_counters, kept]

theorem gates_never_bypassed_fanout :
    let quiet : Sink Unit := .metered 0 (.leaf ⟨"quiet", .empty, .memory .error 0⟩)
    let loud : Sink Unit := .metered 1 (.leaf ⟨"loud", .empty, .memory .info 1⟩)
    let rename : Hooks := ⟨none, none, none, some fun _ => "g"⟩
    let s : Sink Unit := .hooked rename (Sink.fanout [quiet, .recovered .logging loud])
    let call : Call := ⟨[.group "h"], ⟨0, 0⟩, .info, "m", []⟩
    let w : World Unit := .start () fun _ => 0
    s.Open ∧ (call.logIn s .background w).2.deliveries.size = 1 ∧
      ((Call.logAllIn s [(.background, call), (.background, call)] w).2.counters 0).filtered = 0 := by
  intro quiet loud rename s call w
  have plain : s.Open := by
    intro p hp
    simp only [s, quiet, loud, fanout, flatten, fanoutMembers?, parts, partsEach, List.flatMap_cons,
      List.flatMap_nil, Option.getD_none, List.append_nil, List.cons_append, List.nil_append,
      List.mem_cons, List.not_mem_nil, or_false] at hp
    rcases hp with rfl | rfl | rfl | rfl | rfl | rfl
    · exact ⟨rfl, rfl⟩
    all_goals trivial
  obtain ⟨_, runs⟩ := gates_never_bypassed plain []
  refine ⟨plain, rfl, ?_⟩
  exact (runs [(.background, call), (.background, call)] w 0).2

end Sink
end LogTree
