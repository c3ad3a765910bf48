import LogTree.Proofs.Similar

/-!
What is only reported is never read: whatever events and ticks there are already, a sink answers the
same and adds the same to them. It holds of every sink, whatever its own code does, since that code
sees its state only. Main statement: `Sink.seen_alike`.
-/
namespace LogTree
variable {σ : Type}

/-- Events and ticks of an earlier time. -/
structure Reports where
  events : Array Event
  ticks : Array (MeterId × Tick)

namespace World

def reports (w : World σ) : Reports := ⟨w.events, w.ticks⟩

def unreported (w : World σ) : World σ := { w with events := #[], ticks := #[] }

def behind (past : Reports) (w : World σ) : World σ :=
  { w with events := past.events ++ w.events, ticks := past.ticks ++ w.ticks }

variable (past : Reports) (w : World σ)

theorem unreported_behind : w.unreported.behind w.reports = w := by
  simp [unreported, behind, reports]

@[simp] theorem note_behind (e : Event) : (w.behind past).note e = (w.note e).behind past := by
  simp [behind, note]

@[simp] theorem tick_behind (m : MeterId) (t : Tick) :
    (w.behind past).tick m t = (w.tick m t).behind past := by
  simp [behind, tick]

@[simp] theorem deliver_behind (d : Delivery) :
    (w.behind past).deliver d = (w.deliver d).behind past := rfl

@[simp] theorem draw_behind (n : Nat) :
    (w.behind past).draw n = (w.draw n).map id (behind past) := rfl

@[simp] theorem runState_behind {α : Type} (f : σ → α × σ) :
    (w.behind past).runState f = (w.runState f).map id (behind past) := rfl

end World

theorem Guard.isMatch_behind (g : Guard σ) (past : Reports) (c : Context) (r : Record)
    (w : World σ) :
    g.isMatch c r (w.behind past) = (g.isMatch c r w).map id (World.behind past) := rfl

namespace Behaviour

/-- Runs the same behind any reports. -/
def Unreading (b : Behaviour σ) : Prop :=
  ∀ past c r (w : World σ),
    b.handle c r (w.behind past) = (b.handle c r w).map id (World.behind past)

section
variable {b : Behaviour σ} {bs : List (Behaviour σ)}

theorem guarded_behind (unreading : b.Unreading) (past : Reports) (c : Context) (r : Record)
    (w : World σ) :
    b.guarded c r (w.behind past) = (b.guarded c r w).map id (World.behind past) := by
  rw [guarded_eq_fence, guarded_eq_fence, unreading]
  rcases b.handle c r w with ⟨_ | _ | _, v⟩ <;> simp [fence]

theorem offerAll_behind (unreading : ∀ b ∈ bs, b.Unreading) (past : Reports) (c : Context)
    (r : Record) (w : World σ) :
    offerAll c r bs (w.behind past) = (offerAll c r bs w).map id (World.behind past) := by
  induction bs generalizing w with
  | nil => rfl
  | cons b rest ih =>
    obtain ⟨first, others⟩ := List.forall_mem_cons.mp unreading
    simp only [offerAll]
    rcases b.enabled c r.level with p | _ | _
    · rfl
    · exact ih others w
    · rw [guarded_behind first]
      rcases b.guarded c r w with ⟨e | _, v⟩
      · simp only [Prod.map_apply, id_eq, World.note_behind, ih others]
        rcases offerAll c r rest (v.note (.memberFailed b.name e.text)) with ⟨_ | _, u⟩ <;> rfl
      · exact ih others v

theorem unreading_fanout (unreading : ∀ b ∈ bs, b.Unreading) : (fanout bs).Unreading := by
  intro past c r w
  simp only [fanout, offerAll_behind unreading]
  rcases offerAll c r bs w with ⟨_ | _, v⟩ <;> rfl

theorem firstSuccess_behind (unreading : ∀ b ∈ bs, b.Unreading) (past : Reports) (c : Context)
    (r : Record) (last : Option SinkError) (w : World σ) :
    firstSuccess c r bs last (w.behind past) =
      (firstSuccess c r bs last w).map id (World.behind past) := by
  induction bs generalizing last w with
  | nil => cases last <;> rfl
  | cons b rest ih =>
    obtain ⟨first, others⟩ := List.forall_mem_cons.mp unreading
    simp only [firstSuccess]
    rcases b.enabled c r.level with p | _ | _
    · rfl
    · exact ih others last w
    · rw [guarded_behind first]
      rcases b.guarded c r w with ⟨e | _, v⟩
      · simp only [Prod.map_apply, id_eq, World.note_behind, ih others]
      · rfl

theorem unreading_failover (unreading : ∀ b ∈ bs, b.Unreading) : (failover bs).Unreading :=
  fun past c r w => firstSuccess_behind unreading past c r none w

theorem unreading_pool (unreading : ∀ b ∈ bs, b.Unreading) : (pool bs).Unreading := by
  intro past c r w
  have rotated : ∀ b ∈ rotate (w.draw bs.length).1 bs, b.Unreading :=
    fun b hb => unreading b (mem_rotate.mp hb)
  simp only [pool]
  split
  · rfl
  · exact firstSuccess_behind rotated past c r none (w.draw bs.length).2

theorem unreading_routed (g : Guard σ) (unreading : b.Unreading) : (routed g b).Unreading := by
  intro past c r w
  simp only [routed, g.isMatch_behind]
  split
  · exact unreading past c r w
  · rcases g.isMatch c r w with ⟨_ | _ | _, v⟩
    · rfl
    · simp
    · exact unreading past c r v

theorem unreading_firstMatch {routes : List (Route σ)} (unreading : ∀ x ∈ routes, x.2.Unreading) :
    (firstMatch routes).Unreading := by
  intro past c r w
  induction routes generalizing w with
  | nil => simp [firstMatch, firstMatching]
  | cons x rest ih =>
    obtain ⟨first, others⟩ := List.forall_mem_cons.mp unreading
    obtain ⟨g, b⟩ := x
    rw [handle_firstMatch_cons, handle_firstMatch_cons, g.isMatch_behind]
    rcases g.isMatch c r w with ⟨_ | _ | _, v⟩
    · rfl
    · exact ih others v
    · simp only [Prod.map_apply, id_eq]
      rcases b.enabled c r.level with p | _ | _
      · rfl
      · simp
      · rw [guarded_behind (unreading_routed g first)]
        rfl

theorem run_behind (recovery : Recovery σ) (past : Reports) (c : Context) (r : Record)
    (e : SinkError) (w : World σ) :
    recovery.run c r e (w.behind past) = (recovery.run c r e w).behind past := by
  cases recovery with
  | logging => exact World.note_behind past w _
  | custom report => rfl

theorem unreading_recovered (recovery : Recovery σ) (unreading : b.Unreading) :
    (recovered recovery b).Unreading := by
  intro past c r w
  simp only [recovered, guarded_behind unreading]
  rcases b.guarded c r w with ⟨e | _, v⟩
  · simp [run_behind]
  · rfl

theorem unreading_metered (m : MeterId) (unreading : b.Unreading) : (metered m b).Unreading := by
  intro past c r w
  simp only [metered]
  rcases b.enabled c r.level with p | _ | _
  · rfl
  · simp
  · simp only [guarded_behind unreading]
    rcases b.guarded c r w with ⟨e | _, v⟩ <;> simp

/-- A plan may pass records on as often as it likes. -/
theorem unreading_hooked (h : Hooks) (unreading : b.Unreading) : (hooked h b).Unreading := by
  intro past c r w
  simp only [hooked]
  cases h.onHandle with
  | none => exact unreading past c r w
  | some hook =>
    simp only
    generalize hook b.name c r = plan
    induction plan generalizing w with
    | answer result => rfl
    | pass r next ih =>
      simp only [Plan.run, unreading past c r w]
      rcases b.handle c r w with ⟨_ | _ | _, v⟩
      · exact ih (.ok ()) v
      · exact ih (.error _) v
      · rfl

end
end Behaviour

namespace Sink
open Behaviour

theorem unreading (s : Sink σ) : s.behaviour.Unreading := by
  induction s using induction with
  | leaf l =>
    intro past c r w
    simp only [behaviour, Leaf.behaviour, Leaf.react, World.deliver_behind]
    cases l.kind with
    | memory least b => rfl
    | log least => simp
    | custom enabled handle => rfl
  | spread ms ih =>
    rw [behaviour, behaviours_eq_map]
    exact unreading_fanout (List.forall_mem_map.mpr ih)
  | failover ms ih =>
    rw [behaviour, behaviours_eq_map]
    exact unreading_failover (List.forall_mem_map.mpr ih)
  | pool ms ih =>
    rw [behaviour, behaviours_eq_map]
    exact unreading_pool (List.forall_mem_map.mpr ih)
  | routed g t ih => exact unreading_routed g ih
  | firstMatch rs ih =>
    rw [behaviour, routeBehaviours_eq_map]
    exact unreading_firstMatch (List.forall_mem_map.mpr ih)
  | recovered recovery s ih => exact unreading_recovered recovery ih
  | metered m s ih => exact unreading_metered m ih
  | hooked h s ih => exact unreading_hooked h ih

/-- Worlds that look the same look the same after a run, and the answers are the same. -/
theorem seen_alike (s : Sink σ) (c : Context) (r : Record) {w v : World σ}
    (views : w.view id = v.view id) :
    (s.handle c r w).1 = (s.handle c r v).1 ∧
      (s.handle c r w).2.view id = (s.handle c r v).2.view id := by
  have base : w.unreported = v.unreported := by
    simp only [World.view, View.mk.injEq, id_eq] at views
    simp only [World.unreported, views]
  have left := s.unreading w.reports c r w.unreported
  have right := s.unreading v.reports c r v.unreported
  rw [World.unreported_behind] at left right
  rw [handle, left, right, base]
  exact ⟨rfl, rfl⟩

theorem similar_self (s : Sink σ) {c : Context} {r : Record}
    (answers : s.behaviour.Answers c r.level) :
    Behaviour.Similar id c r s.behaviour s.behaviour := by
  refine .of_guarded answers rfl fun _ w v views => ?_
  obtain ⟨same, after⟩ := s.seen_alike c r views
  rw [guarded_eq_fence, guarded_eq_fence]
  change observe id (fence s.name (s.handle c r w)) = observe id (fence s.name (s.handle c r v))
  rcases left : s.handle c r w with ⟨o, w'⟩
  rcases right : s.handle c r v with ⟨o', v'⟩
  rw [left, right] at same after
  cases same
  exact observe_fence s.name o after

end Sink
end LogTree
