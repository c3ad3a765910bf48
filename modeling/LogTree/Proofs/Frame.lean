import LogTree.Proofs.Boundary
import LogTree.Proofs.Routers

/-!
What running a tree can change. A relation between the world before and after that survives what each
part of the tree does on its own survives a whole run. With `gate` the leaves are only those that are
enabled, provided that the tree was asked before. A relation need not survive that a record finds no
route, if no node of the tree can come to that.
-/
namespace LogTree
variable {σ : Type}

/-- A relation between worlds that goes over a whole run and that the nodes themselves keep. -/
structure Passage (R : World σ → World σ → Prop) : Prop where
  refl : ∀ w, R w w
  trans : ∀ {u v w}, R u v → R v w → R u w
  note : ∀ w e, R w (w.note e)
  draw : ∀ w n, R w (w.draw n).2

def Event.isMiss : Event → Bool
  | .noRoute _ => true
  | _ => false

/-- The same, but that a record finds no route may break the relation. -/
structure Course (R : World σ → World σ → Prop) : Prop where
  refl : ∀ w, R w w
  trans : ∀ {u v w}, R u v → R v w → R u w
  note : ∀ w e, e.isMiss = false → R w (w.note e)
  draw : ∀ w n, R w (w.draw n).2

theorem Passage.course {R : World σ → World σ → Prop} (passage : Passage R) : Course R where
  refl := passage.refl
  trans := passage.trans
  note w e _ := passage.note w e
  draw := passage.draw

structure Frame (R : World σ → World σ → Prop) : Prop extends Passage R where
  tick : ∀ w m t, R w (w.tick m t)
  state : ∀ (w : World σ) s, R w { w with state := s }

namespace Behaviour

def Within (R : World σ → World σ → Prop) (c : Context) (r : Record) (b : Behaviour σ) : Prop :=
  ∀ w, R w (b.handle c r w).2

def MayMiss (R : World σ → World σ → Prop) (c : Context) (r : Record) (rs : List (Route σ)) : Prop :=
  ∀ w v, firstMatching c r rs w = (.ok none, v) → R v (v.note (.noRoute r.message))

section
variable {R : World σ → World σ → Prop} {c : Context} {r : Record}

theorem within_guarded (course : Course R) {b : Behaviour σ} (within : b.Within R c r)
    (w : World σ) : R w (b.guarded c r w).2 := by
  have h := within w
  rw [guarded_eq_fence]
  generalize b.handle c r w = answer at h ⊢
  obtain ⟨_ | _ | _, v⟩ := answer
  · exact h
  · exact h
  · exact course.trans h (course.note v _ rfl)

theorem within_offerAll (course : Course R) {ms : List (Behaviour σ)}
    (members : ∀ b ∈ ms, b.enabled c r.level = .ok true → b.Within R c r) (w : World σ) :
    R w (offerAll c r ms w).2 := by
  induction ms generalizing w with
  | nil => exact course.refl w
  | cons b rest ih =>
    obtain ⟨first, others⟩ := List.forall_mem_cons.mp members
    simp only [offerAll]
    split
    · exact course.refl w
    · exact ih others w
    · rename_i check
      have here := within_guarded course (first check) w
      generalize b.guarded c r w = answer at here ⊢
      obtain ⟨e | _, v⟩ := answer
      · have there := ih others (v.note (.memberFailed b.name e.text))
        have path := course.trans here (course.trans (course.note v _ rfl) there)
        dsimp only
        generalize offerAll c r rest (v.note (.memberFailed b.name e.text)) = rest at path ⊢
        obtain ⟨_ | _, u⟩ := rest <;> exact path
      · exact course.trans here (ih others v)

theorem within_fanout (course : Course R) {ms : List (Behaviour σ)}
    (members : ∀ b ∈ ms, b.enabled c r.level = .ok true → b.Within R c r) :
    (fanout ms).Within R c r := by
  intro w
  have h := within_offerAll course members w
  simp only [fanout]
  generalize offerAll c r ms w = answer at h ⊢
  obtain ⟨_ | _, v⟩ := answer <;> exact h

theorem within_firstSuccess (course : Course R) {ms : List (Behaviour σ)}
    (members : ∀ b ∈ ms, b.enabled c r.level = .ok true → b.Within R c r)
    (last : Option SinkError) (w : World σ) : R w (firstSuccess c r ms last w).2 := by
  induction ms generalizing last w with
  | nil => cases last <;> exact course.refl w
  | cons b rest ih =>
    obtain ⟨first, others⟩ := List.forall_mem_cons.mp members
    simp only [firstSuccess]
    split
    · exact course.refl w
    · exact ih others last w
    · rename_i check
      have here := within_guarded course (first check) w
      generalize b.guarded c r w = answer at here ⊢
      obtain ⟨e | _, v⟩ := answer
      · exact course.trans here (course.trans (course.note v _ rfl) (ih others (some e) _))
      · exact here

theorem within_pool (course : Course R) {ms : List (Behaviour σ)}
    (members : ∀ b ∈ ms, b.enabled c r.level = .ok true → b.Within R c r) :
    (pool ms).Within R c r := by
  intro w
  simp only [pool]
  split
  · exact course.refl w
  · exact course.trans (course.draw w ms.length)
      (within_firstSuccess course (fun b hb => members b (mem_rotate.mp hb)) none _)

theorem within_routed (course : Course R) {g : Guard σ} {b : Behaviour σ}
    (searches : ∀ w, R w (g.isMatch c r w).2) (within : b.Within R c r) :
    (routed g b).Within R c r := by
  intro w
  have search := searches w
  simp only [routed]
  split
  · exact within w
  · generalize g.isMatch c r w = answer at search ⊢
    obtain ⟨_ | _ | _, v⟩ := answer
    · exact search
    · exact course.trans search (course.note v _ rfl)
    · exact course.trans search (within v)

theorem within_firstMatching (course : Course R) {rs : List (Route σ)}
    (searches : ∀ route ∈ rs, ∀ w, R w (route.1.isMatch c r w).2) (w : World σ) :
    R w (firstMatching c r rs w).2 := by
  induction rs generalizing w with
  | nil => exact course.refl w
  | cons route rest ih =>
    obtain ⟨first, others⟩ := List.forall_mem_cons.mp searches
    have here := first w
    simp only [firstMatching]
    generalize route.1.isMatch c r w = answer at here ⊢
    obtain ⟨_ | _ | _, v⟩ := answer
    · exact here
    · exact course.trans here (ih others v)
    · exact here

theorem mem_of_firstMatching {rs : List (Route σ)} {route : Route σ} {w v : World σ}
    (h : firstMatching c r rs w = (.ok (some route), v)) : route ∈ rs := by
  induction rs generalizing w with
  | nil => simp [firstMatching] at h
  | cons first rest ih =>
    simp only [firstMatching] at h
    split at h
    · simp only [Prod.mk.injEq, Except.ok.injEq, Option.some.injEq] at h
      exact h.1 ▸ List.mem_cons_self
    · exact List.mem_cons_of_mem first (ih h)
    · simp at h

theorem within_firstMatch (course : Course R) {rs : List (Route σ)}
    (searches : ∀ route ∈ rs, ∀ w, R w (route.1.isMatch c r w).2)
    (missed : MayMiss R c r rs)
    (targets : ∀ route ∈ rs, route.2.enabled c r.level = .ok true → route.2.Within R c r) :
    (firstMatch rs).Within R c r := by
  intro w
  have search := within_firstMatching course searches w
  simp only [firstMatch]
  rcases h : firstMatching c r rs w with ⟨p | _ | ⟨g, t⟩, v⟩ <;> rw [h] at search
  · exact search
  · exact course.trans search (missed w v h)
  · dsimp only
    split
    · exact search
    · exact course.trans search (course.note v _ rfl)
    · rename_i check
      have winner := mem_of_firstMatching h
      have route := within_routed course (searches _ winner) (targets _ winner check)
      exact course.trans search (within_guarded course route v)

theorem within_recovered (course : Course R) {recovery : Recovery σ} {b : Behaviour σ}
    (reports : ∀ w e, R w (recovery.run c r e w)) (within : b.Within R c r) :
    (recovered recovery b).Within R c r := by
  intro w
  have here := within_guarded course within w
  simp only [recovered]
  generalize b.guarded c r w = answer at here ⊢
  obtain ⟨e | _, v⟩ := answer
  · exact course.trans here (reports v e)
  · exact here

theorem within_metered (course : Course R) {m : MeterId} {b : Behaviour σ}
    (counts : ∀ w t, (t = .filtered → b.enabled c r.level = .ok false) → R w (w.tick m t))
    (member : b.enabled c r.level = .ok true → b.Within R c r) : (metered m b).Within R c r := by
  intro w
  simp only [metered]
  split
  · exact course.refl w
  · rename_i check
    exact counts w .filtered fun _ => check
  · rename_i check
    have here := within_guarded course (member check) w
    generalize b.guarded c r w = answer at here ⊢
    obtain ⟨e | _, v⟩ := answer
    · exact course.trans here (counts v .failed fun other => by cases other)
    · exact course.trans here (counts v .handled fun other => by cases other)

end
end Behaviour

/-- What each part of a tree is asked for: a leaf keeps the relation when it is called, and no hook
sees a record or a level. -/
def Part.Keeps (R : World σ → World σ → Prop) (c : Context) (r : Record) (gate : Prop) :
    Part σ → Prop
  | .leaf l => (gate → l.enabled c r.level = .ok true) → l.behaviour.Within R c r
  | .hooks h => h.onEnabled = none ∧ h.onHandle = none
  | _ => True

/-- The same of what each part does. With `gate` a leaf that is called is enabled, and a meter does
not count what it turns away. -/
def Part.Follows (R : World σ → World σ → Prop) (c : Context) (r : Record) (gate : Prop) :
    Part σ → Prop
  | .leaf l => (gate → l.enabled c r.level = .ok true) → l.behaviour.Within R c r
  | .guard g => ∀ w, R w (g.isMatch c r w).2
  | .recovery x => ∀ w e, R w (x.run c r e w)
  | .meter m => ∀ w t, (gate → t ≠ .filtered) → R w (w.tick m t)
  | .hooks h => h.onEnabled = none ∧ h.onHandle = none

theorem Part.Keeps.follows {R : World σ → World σ → Prop} (frame : Frame R) {c : Context}
    {r : Record} {gate : Prop} {p : Part σ} (keeps : p.Keeps R c r gate) :
    p.Follows R c r gate := by
  cases p with
  | leaf l => exact keeps
  | guard g => exact fun w => frame.state w _
  | recovery recovery =>
    intro w e
    cases recovery with
    | logging => exact frame.note w _
    | custom report => exact frame.state w _
  | meter m => exact fun w t _ => frame.tick w m t
  | hooks h => exact keeps

namespace Sink

/-- What each part keeps, a run of the tree keeps, if the relation lets those nodes drop a record that
can come to it. Composites ask before they hand on; the other nodes rely on having been asked. -/
theorem handle_course {R : World σ → World σ → Prop} (course : Course R) {c : Context} {r : Record}
    (gate : Prop) (s : Sink σ) (follows : ∀ p ∈ s.parts, p.Follows R c r gate)
    (missed : ∀ rs ∈ s.routers, Behaviour.MayMiss R c r (routeBehaviours rs))
    (asked : gate → s.enabled c r.level = .ok true) : s.behaviour.Within R c r := by
  have members : ∀ ms : List (Sink σ),
      (∀ s ∈ ms, (∀ p ∈ s.parts, p.Follows R c r gate) →
        (∀ rs ∈ s.routers, Behaviour.MayMiss R c r (routeBehaviours rs)) →
        (gate → s.enabled c r.level = .ok true) → s.behaviour.Within R c r) →
      (∀ p ∈ partsEach ms, p.Follows R c r gate) →
      (∀ rs ∈ routersEach ms, Behaviour.MayMiss R c r (routeBehaviours rs)) →
      ∀ b ∈ behaviours ms, b.enabled c r.level = .ok true → b.Within R c r := by
    intro ms ih follows missed b hb check
    rw [behaviours_eq_map] at hb
    obtain ⟨s, hs, rfl⟩ := List.mem_map.mp hb
    exact ih s hs (fun p hp => follows p (mem_parts_each hs hp))
      (fun rs hr => missed rs (mem_routers_each hs hr)) fun _ => check
  induction s using induction with
  | leaf l => exact follows (.leaf l) List.mem_cons_self asked
  | spread ms ih => exact Behaviour.within_fanout course (members ms ih follows missed)
  | failover ms ih =>
    exact Behaviour.within_firstSuccess course (members ms ih follows missed) none
  | pool ms ih => exact Behaviour.within_pool course (members ms ih follows missed)
  | routed g t ih =>
    obtain ⟨searches, inner⟩ := List.forall_mem_cons.mp follows
    exact Behaviour.within_routed course searches (ih inner missed asked)
  | firstMatch rs ih =>
    obtain ⟨dropped, below⟩ := List.forall_mem_cons.mp missed
    rw [Sink.behaviour]
    refine Behaviour.within_firstMatch course ?_ dropped ?_
    · intro route hr
      rw [routeBehaviours_eq_map] at hr
      obtain ⟨x, hx, rfl⟩ := List.mem_map.mp hr
      exact follows (.guard x.1) (guard_mem_parts_routes hx)
    · intro route hr check
      rw [routeBehaviours_eq_map] at hr
      obtain ⟨x, hx, rfl⟩ := List.mem_map.mp hr
      exact ih x hx (fun p hp => follows p (mem_parts_routes hx hp))
        (fun rs hr => below rs (mem_routers_targets hx hr)) fun _ => check
  | recovered recovery s ih =>
    obtain ⟨reports, inner⟩ := List.forall_mem_cons.mp follows
    exact Behaviour.within_recovered course reports (ih inner missed asked)
  | metered m s ih =>
    obtain ⟨counts, inner⟩ := List.forall_mem_cons.mp follows
    refine Behaviour.within_metered course ?_ fun check => ih inner missed fun _ => check
    intro w t off
    refine counts w t fun gated filtered => ?_
    have disabled := (asked gated).symm.trans (off filtered)
    cases disabled
  | hooked h s ih =>
    obtain ⟨⟨noEnabled, noHandle⟩, inner⟩ := List.forall_mem_cons.mp follows
    have next := ih inner missed fun gated => by
      simpa only [Sink.enabled, Sink.behaviour, Behaviour.hooked, noEnabled] using asked gated
    intro w
    simpa only [Sink.behaviour, Behaviour.hooked, noHandle] using next w

theorem handle_follows {R : World σ → World σ → Prop} (passage : Passage R) {c : Context}
    {r : Record} (gate : Prop) (s : Sink σ) (follows : ∀ p ∈ s.parts, p.Follows R c r gate)
    (asked : gate → s.enabled c r.level = .ok true) : s.behaviour.Within R c r :=
  handle_course passage.course gate s follows (fun _ _ _ v _ => passage.note v _) asked

/-- Where all but the calls of leaves keeps a relation, those calls decide. -/
theorem handle_within {R : World σ → World σ → Prop} (frame : Frame R) {c : Context} {r : Record}
    (gate : Prop) (s : Sink σ) (keeps : ∀ p ∈ s.parts, p.Keeps R c r gate)
    (asked : gate → s.enabled c r.level = .ok true) : s.behaviour.Within R c r :=
  handle_follows frame.toPassage gate s (fun p hp => (keeps p hp).follows frame) asked

end Sink
end LogTree
