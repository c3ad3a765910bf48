import LogTree.Proofs.Gates
import LogTree.Proofs.Similar

/-!
Wrappers are transparent. Two trees of which the second has wrappers anywhere around subtrees of the
first are followed through any derivations and calls. Fan-outs flatten on both sides, so the relation is
on trees as they are written down. Main statement: `wrappers_transparent`.
-/
namespace LogTree
variable {σ τ : Type}

/-- Decides, and changes what is seen, by what is seen. -/
def Predicate.Respects (see : σ → τ) (p : Predicate σ) : Prop :=
  ∀ c r s t, see s = see t →
    (p.holds c r s).1 = (p.holds c r t).1 ∧ see (p.holds c r s).2 = see (p.holds c r t).2

def Predicate.Returns (p : Predicate σ) : Prop := ∀ c r s q, (p.holds c r s).1 ≠ .error q

/-- With `full` a predicate may panic. -/
def Guard.Respects (see : σ → τ) (full : Prop) (g : Guard σ) : Prop :=
  ∀ p ∈ g.predicates, p.Respects see ∧ (¬ full → p.Returns)

def LeafKind.Respects (see : σ → τ) : LeafKind σ → Prop
  | .custom enabled handle =>
    (∀ c scope level p, enabled c scope level ≠ .error p) ∧
    ∀ c scope r s t, see s = see t →
      (handle c scope r s).1 = (handle c scope r t).1 ∧
        see (handle c scope r s).2 = see (handle c scope r t).2
  | _ => True

/-- Reports the failures, however they are nested. -/
def Recovery.Respects (see : σ → τ) : Recovery σ → Prop
  | .logging => True
  | .custom report => ∀ c r e f s t, e.leaves = f.leaves → see s = see t →
    see (report c r e s) = see (report c r f t)

/-- Reports where nobody looks. -/
def Recovery.Silent (see : σ → τ) : Recovery σ → Prop
  | .logging => True
  | .custom report => ∀ c r e s, see (report c r e s) = see s

/-- What may be put around a sink: a recovery, a meter, a middleware without hooks, or a route without
predicates. -/
inductive Wrapper (σ : Type) where
  | recovery (recovery : Recovery σ)
  | meter (meter : MeterId)
  | middleware
  | route (scope : Scope)

namespace Wrapper

def wrap : Wrapper σ → Sink σ → Sink σ
  | .recovery x, s => .recovered x s
  | .meter m, s => .metered m s
  | .middleware, s => .hooked .none s
  | .route scope, s => .routed ⟨[], scope, false⟩ s

def Silent (see : σ → τ) : Wrapper σ → Prop
  | .recovery x => x.Silent see
  | _ => True

def rescope (f : Scope → Scope) : Wrapper σ → Wrapper σ
  | .route scope => .route (f scope)
  | other => other

end Wrapper

/-- The second tree is the first with wrappers around some of its subtrees. With `full` every fan-out
is given at least one member. -/
inductive Wrapped (see : σ → τ) (full : Prop) : Sink σ → Sink σ → Prop where
  | leaf {l : Leaf σ} : l.kind.Respects see → Wrapped see full (.leaf l) (.leaf l)
  | fanout {ps : List (Sink σ × Sink σ)} : (full → ps ≠ []) →
    (∀ p ∈ ps, Wrapped see full p.1 p.2) →
    Wrapped see full (Sink.fanout (ps.map Prod.fst)) (Sink.fanout (ps.map Prod.snd))
  | failover {ps : List (Sink σ × Sink σ)} : (∀ p ∈ ps, Wrapped see full p.1 p.2) →
    Wrapped see full (.failover (ps.map Prod.fst)) (.failover (ps.map Prod.snd))
  | pool {ps : List (Sink σ × Sink σ)} : (∀ p ∈ ps, Wrapped see full p.1 p.2) →
    Wrapped see full (.pool (ps.map Prod.fst)) (.pool (ps.map Prod.snd))
  | routed {g : Guard σ} {s t : Sink σ} : g.Respects see full → Wrapped see full s t →
    Wrapped see full (.routed g s) (.routed g t)
  | firstMatch {rs : List (Guard σ × Sink σ × Sink σ)} : (∀ x ∈ rs, x.1.Respects see full) →
    (∀ x ∈ rs, Wrapped see full x.2.1 x.2.2) →
    Wrapped see full (Sink.firstMatchOf (rs.map fun x => (x.1, x.2.1)))
      (Sink.firstMatchOf (rs.map fun x => (x.1, x.2.2)))
  | recovered {x : Recovery σ} {s t : Sink σ} : x.Respects see → Wrapped see full s t →
    Wrapped see full (.recovered x s) (.recovered x t)
  | metered (m : MeterId) {s t : Sink σ} : Wrapped see full s t →
    Wrapped see full (.metered m s) (.metered m t)
  | hooked {s t : Sink σ} : Wrapped see full s t →
    Wrapped see full (.hooked .none s) (.hooked .none t)
  | around (x : Wrapper σ) {s t : Sink σ} : x.Silent see → Wrapped see full s t →
    Wrapped see full s (x.wrap t)

theorem Predicate.allHold_respects {see : σ → τ} {ps : List (Predicate σ)}
    (respects : ∀ p ∈ ps, p.Respects see) (c : Context) (r : Record) {s t : σ} (same : see s = see t) :
    (allHold c r ps s).1 = (allHold c r ps t).1 ∧
      see (allHold c r ps s).2 = see (allHold c r ps t).2 := by
  induction ps generalizing s t with
  | nil => exact ⟨rfl, same⟩
  | cons p rest ih =>
    obtain ⟨first, others⟩ := List.forall_mem_cons.mp respects
    obtain ⟨answers, after⟩ := first c r s t same
    simp only [allHold]
    rcases left : p.holds c r s with ⟨_ | _ | _, s'⟩ <;>
      rcases right : p.holds c r t with ⟨_ | _ | _, t'⟩ <;>
      rw [left, right] at answers after <;> cases answers
    · exact ⟨rfl, after⟩
    · exact ⟨rfl, after⟩
    · exact ih others after

theorem Predicate.allHold_returns {ps : List (Predicate σ)} (returns : ∀ p ∈ ps, p.Returns)
    (c : Context) (r : Record) (s : σ) (q : Payload) : (allHold c r ps s).1 ≠ .error q := by
  induction ps generalizing s with
  | nil => exact fun same => by cases same
  | cons p rest ih =>
    obtain ⟨first, others⟩ := List.forall_mem_cons.mp returns
    have here := first c r s q
    simp only [allHold]
    rcases answer : p.holds c r s with ⟨_ | _ | _, s'⟩ <;> rw [answer] at here
    · exact here
    · exact fun same => by cases same
    · exact ih others s'

theorem World.view_state {see : σ → τ} {w v : World σ} (views : w.view see = v.view see) {s t : σ}
    (same : see s = see t) :
    ({ w with state := s } : World σ).view see = ({ v with state := t } : World σ).view see := by
  simp only [World.view, View.mk.injEq] at views ⊢
  exact ⟨same, views.2⟩

namespace Guard
variable {see : σ → τ} {full : Prop} {g : Guard σ}

theorem Respects.seesAlike (respects : g.Respects see full) (c : Context) (r : Record) :
    Behaviour.SeesAlike see c r g := by
  intro w v views
  have states : see w.state = see v.state := congrArg View.state views
  obtain ⟨answers, after⟩ :=
    Predicate.allHold_respects (fun p hp => (respects p hp).1) c (g.scope.view r) states
  exact ⟨answers, World.view_state views after⟩

theorem Respects.full_of_panic (respects : g.Respects see full) {c : Context} {r : Record}
    (panics : ∃ w p, (g.isMatch c r w).1 = .error p) : full := by
  by_contra empty
  obtain ⟨w, p, panics⟩ := panics
  have returns : ∀ q ∈ g.predicates, q.Returns := fun q hq => (respects q hq).2 empty
  exact Predicate.allHold_returns returns c (g.scope.view r) w.state p panics

end Guard

theorem Recovery.Respects.run {see : σ → τ} {x : Recovery σ} (respects : x.Respects see)
    (c : Context) (r : Record) (e f : SinkError) (w v : World σ) (leaves : e.leaves = f.leaves)
    (views : w.view see = v.view see) : (x.run c r e w).view see = (x.run c r f v).view see := by
  cases x with
  | logging => exact views
  | custom report =>
    exact World.view_state views (respects c r e f w.state v.state leaves (congrArg View.state views))

theorem Recovery.Silent.run {see : σ → τ} {x : Recovery σ} (silent : x.Silent see) (c : Context)
    (r : Record) (e : SinkError) (w : World σ) : (x.run c r e w).view see = w.view see := by
  cases x with
  | logging => rfl
  | custom report => exact World.view_state (Eq.refl (w.view see)) (silent c r e w.state)

theorem Leaf.similar {see : σ → τ} {l : Leaf σ} (respects : l.kind.Respects see) (c : Context)
    (r : Record) : Behaviour.Similar see c r l.behaviour l.behaviour := by
  have answers : l.behaviour.Answers c r.level := by
    intro p
    simp only [Leaf.behaviour, Leaf.enabled]
    cases kind : l.kind with
    | memory least b => exact fun same => by cases same
    | log least => exact fun same => by cases same
    | custom enabled handle =>
      rw [kind] at respects
      exact respects.1 c l.scope r.level p
  refine Behaviour.Similar.of_guarded answers rfl fun _ w v views => ?_
  have delivered : (w.deliver (l.delivery r)).view see = (v.deliver (l.delivery r)).view see := by
    simp only [World.view, World.deliver, View.mk.injEq] at views ⊢
    exact ⟨views.1, by rw [views.2.1], views.2.2⟩
  rw [Behaviour.guarded_eq_fence, Behaviour.guarded_eq_fence]
  simp only [Leaf.behaviour, Leaf.react]
  cases kind : l.kind with
  | memory least b => exact Behaviour.observe_fence l.name .fine delivered
  | log least => exact Behaviour.observe_fence l.name .fine delivered
  | custom enabled handle =>
    rw [kind] at respects
    have states : see w.state = see v.state := congrArg View.state views
    obtain ⟨answers, after⟩ := respects.2 c l.scope r w.state v.state states
    have ran := World.view_state delivered after
    simp only [World.runState, World.deliver, answers]
    exact Behaviour.observe_fence l.name _ ran

def Part.Hookless : Part σ → Prop
  | .hooks h => h = .none
  | _ => True

namespace Wrapper
variable {see : σ → τ}

theorem whole (x : Wrapper σ) (s : Sink σ) : (x.wrap s).fanoutMembers? = none := by
  cases x <;> rfl

theorem name_wrap (x : Wrapper σ) (s : Sink σ) : (x.wrap s).name = s.name := by
  cases x <;> rfl

theorem enabled_wrap (x : Wrapper σ) (s : Sink σ) :
    (x.wrap s).behaviour.enabled = s.behaviour.enabled := by
  cases x <;> rfl

theorem rescope_wrap (f : Scope → Scope) (x : Wrapper σ) (s : Sink σ) :
    (x.wrap s).rescope f = (x.rescope f).wrap (s.rescope f) := by
  cases x with
  | route scope => simp only [wrap, rescope, Sink.rescope, Guard.rescope]
  | _ => simp only [wrap, rescope, Sink.rescope]

theorem Silent.rescope {x : Wrapper σ} (silent : x.Silent see) (f : Scope → Scope) :
    (x.rescope f).Silent see := by
  cases x <;> exact silent

theorem turn_wrap {x : Wrapper σ} (silent : x.Silent see) {s : Sink σ} {c : Context} {r : Record}
    (answers : s.behaviour.Answers c r.level) (w : World σ) :
    (x.wrap s).behaviour.turn see c r w = s.behaviour.turn see c r w := by
  cases x with
  | recovery x => exact Behaviour.turn_recovered (fun e w => silent.run c r e w) w
  | meter m => exact Behaviour.turn_metered m answers w
  | middleware => rfl
  | route scope => exact Behaviour.turn_routed_nothing scope w

theorem built_wrap (x : Wrapper σ) {s : Sink σ} (built : Sink.Built Part.Hookless s) :
    Sink.Built Part.Hookless (x.wrap s) := by
  cases x with
  | recovery x => exact .recovered trivial built
  | meter m => exact .metered trivial built
  | middleware => exact .hooked rfl built
  | route scope => exact .routed trivial built

end Wrapper

namespace Sink

theorem Settled.whole {s : Sink σ} (settled : Settled s) : ∀ m ∈ s.members, m.fanoutMembers? = none := by
  have whole := no_fanout_member_rescope id s
  rwa [show s.rescope id = s from settled] at whole

theorem whole_flatten {ms : List (Sink σ)} (settled : ∀ s ∈ ms, Settled s) :
    ∀ m ∈ flatten ms, m.fanoutMembers? = none := by
  intro m hm
  rw [flatten_eq_flatMap] at hm
  obtain ⟨s, hs, hm⟩ := List.mem_flatMap.mp hm
  exact (settled s hs).whole m hm

theorem Settled.fanout_eq {s : Sink σ} (settled : Settled s) : Sink.fanout [s] = s := by
  have same := fanout_rescope id s
  rwa [show s.rescope id = s from settled] at same

theorem name_fanout_many {s t : Sink σ} (first : s.members ≠ []) (second : t.members ≠ [])
    (rest : List (Sink σ)) : (Sink.fanout (s :: t :: rest)).name = "fanout" := by
  have many : (flatten (s :: t :: rest)).length ≠ 1 := by
    have a := List.length_pos_iff.mpr first
    have b := List.length_pos_iff.mpr second
    rw [flatten_cons, flatten_cons, List.length_append, List.length_append]
    omega
  rw [fanout_many many]
  rfl

end Sink

namespace Wrapped
variable {see : σ → τ} {full : Prop} {s t : Sink σ}

theorem built (wrapped : Wrapped see full s t) :
    Sink.Built Part.Hookless s ∧ Sink.Built Part.Hookless t := by
  have each : ∀ {ps : List (Sink σ × Sink σ)},
      (∀ p ∈ ps, Sink.Built Part.Hookless p.1 ∧ Sink.Built Part.Hookless p.2) →
      (∀ s ∈ ps.map Prod.fst, Sink.Built Part.Hookless s) ∧
        ∀ t ∈ ps.map Prod.snd, Sink.Built Part.Hookless t := by
    intro ps ih
    exact ⟨List.forall_mem_map.mpr fun p hp => (ih p hp).1,
      List.forall_mem_map.mpr fun p hp => (ih p hp).2⟩
  induction wrapped with
  | leaf _ => exact ⟨.leaf trivial, .leaf trivial⟩
  | fanout _ _ ih => exact ⟨.fanout (each ih).1, .fanout (each ih).2⟩
  | failover _ ih => exact ⟨.failover (each ih).1, .failover (each ih).2⟩
  | pool _ ih => exact ⟨.pool (each ih).1, .pool (each ih).2⟩
  | routed _ _ ih => exact ⟨.routed trivial ih.1, .routed trivial ih.2⟩
  | firstMatch _ _ ih =>
    constructor
    · exact .firstMatch (fun _ _ => trivial) (List.forall_mem_map.mpr fun x hx => (ih x hx).1)
    · exact .firstMatch (fun _ _ => trivial) (List.forall_mem_map.mpr fun x hx => (ih x hx).2)
  | recovered _ _ ih => exact ⟨.recovered trivial ih.1, .recovered trivial ih.2⟩
  | metered _ _ ih => exact ⟨.metered trivial ih.1, .metered trivial ih.2⟩
  | hooked _ ih => exact ⟨.hooked rfl ih.1, .hooked rfl ih.2⟩
  | around x _ _ ih => exact ⟨ih.1, x.built_wrap ih.2⟩

theorem rescope (wrapped : Wrapped see full s t) (f : Scope → Scope) :
    Wrapped see full (s.rescope f) (t.rescope f) := by
  let both : Sink σ × Sink σ → Sink σ × Sink σ := fun p => (p.1.rescope f, p.2.rescope f)
  have lefts : ∀ ps : List (Sink σ × Sink σ),
      (ps.map Prod.fst).map (Sink.rescope f) = (ps.map both).map Prod.fst := by
    intro ps
    rw [List.map_map, List.map_map]
    rfl
  have rights : ∀ ps : List (Sink σ × Sink σ),
      (ps.map Prod.snd).map (Sink.rescope f) = (ps.map both).map Prod.snd := by
    intro ps
    rw [List.map_map, List.map_map]
    rfl
  induction wrapped with
  | leaf respects => exact .leaf respects
  | fanout some_member _ ih =>
    rw [Sink.rescope_fanout, Sink.rescope_fanout, lefts, rights]
    refine .fanout (fun h => ?_) (List.forall_mem_map.mpr ih)
    exact mt List.map_eq_nil_iff.mp (some_member h)
  | failover _ ih =>
    rw [Sink.rescope, Sink.rescope, Sink.rescopeEach_eq_map, Sink.rescopeEach_eq_map, lefts, rights]
    exact .failover (List.forall_mem_map.mpr ih)
  | pool _ ih =>
    rw [Sink.rescope, Sink.rescope, Sink.rescopeEach_eq_map, Sink.rescopeEach_eq_map, lefts, rights]
    exact .pool (List.forall_mem_map.mpr ih)
  | routed respects _ ih => exact .routed respects ih
  | firstMatch respects _ ih =>
    rename_i rs _
    have wrapped : Wrapped see full
        (Sink.firstMatchOf ((rs.map fun x => (x.1.rescope f, both x.2)).map fun x => (x.1, x.2.1)))
        (Sink.firstMatchOf ((rs.map fun x => (x.1.rescope f, both x.2)).map fun x => (x.1, x.2.2))) :=
      .firstMatch (List.forall_mem_map.mpr respects) (List.forall_mem_map.mpr ih)
    rw [Sink.rescope_firstMatchOf, Sink.rescope_firstMatchOf]
    rw [List.map_map, List.map_map] at wrapped ⊢
    exact wrapped
  | recovered respects _ ih => exact .recovered respects ih
  | metered m _ ih => exact .metered m ih
  | hooked _ ih => exact .hooked ih
  | around x silent _ ih =>
    rw [Wrapper.rescope_wrap]
    exact .around (x.rescope f) (silent.rescope f) ih

/-- With members in every fan-out, none of them brings nothing into another. -/
theorem members_ne_nil (wrapped : Wrapped see full s t) (h : full) :
    s.members ≠ [] ∧ t.members ≠ [] := by
  have first : ∀ {ms : List (Sink σ)}, ms ≠ [] → (∀ s ∈ ms, Sink.Built Part.Hookless s) →
      (∀ s ∈ ms, s.members ≠ []) → (Sink.fanout ms).members ≠ [] := by
    intro ms some_member built each
    rw [Sink.members_fanout (Sink.whole_flatten fun s hs => (built s hs).settled)]
    obtain ⟨m, rest, rfl⟩ := List.exists_cons_of_ne_nil some_member
    rw [Sink.flatten_cons]
    exact List.append_ne_nil_of_left_ne_nil (each m List.mem_cons_self) _
  induction wrapped with
  | fanout some_member wrapped ih =>
    have some_member := some_member h
    constructor
    · refine first (mt List.map_eq_nil_iff.mp some_member) ?_ ?_
      · exact List.forall_mem_map.mpr fun p hp => (wrapped p hp).built.1
      · exact List.forall_mem_map.mpr fun p hp => (ih p hp).1
    · refine first (mt List.map_eq_nil_iff.mp some_member) ?_ ?_
      · exact List.forall_mem_map.mpr fun p hp => (wrapped p hp).built.2
      · exact List.forall_mem_map.mpr fun p hp => (ih p hp).2
  | around x _ _ ih =>
    rw [Sink.members_of_no_fanout (x.whole _)]
    exact ⟨ih.1, List.cons_ne_nil _ _⟩
  | _ => exact ⟨List.cons_ne_nil _ _, List.cons_ne_nil _ _⟩

theorem name (wrapped : Wrapped see full s t) (h : full) : s.name = t.name := by
  induction wrapped with
  | fanout some_member wrapped ih =>
    rename_i ps
    cases ps with
    | nil => exact absurd rfl (some_member h)
    | cons p rest =>
      cases rest with
      | nil =>
        have here := wrapped p List.mem_cons_self
        have left := here.built.1.settled.fanout_eq
        have right := here.built.2.settled.fanout_eq
        rw [List.map_singleton, List.map_singleton, left, right]
        exact ih p List.mem_cons_self
      | cons q rest =>
        have first := (wrapped p List.mem_cons_self).members_ne_nil h
        have second := (wrapped q (List.mem_cons_of_mem p List.mem_cons_self)).members_ne_nil h
        have left := Sink.name_fanout_many first.1 second.1 (rest.map Prod.fst)
        have right := Sink.name_fanout_many first.2 second.2 (rest.map Prod.snd)
        exact left.trans right.symm
  | routed _ _ ih | recovered _ _ ih | metered _ _ ih | hooked _ ih => exact ih
  | around x _ _ ih => exact ih.trans (x.name_wrap _).symm
  | _ => rfl

theorem similar (wrapped : Wrapped see full s t) (c : Context) (r : Record) :
    Sink.Similar see c r s t := by
  induction wrapped with
  | leaf respects => exact Sink.similar_of_behaviour rfl rfl (Leaf.similar respects c r)
  | fanout _ wrapped ih =>
    apply Sink.similar_fanout ih
    · exact Sink.whole_flatten (List.forall_mem_map.mpr fun p hp => (wrapped p hp).built.1.settled)
    · exact Sink.whole_flatten (List.forall_mem_map.mpr fun p hp => (wrapped p hp).built.2.settled)
  | failover _ ih =>
    refine Sink.similar_of_behaviour rfl rfl ?_
    rw [Sink.behaviour, Sink.behaviour, Sink.behaviours_eq_map, Sink.behaviours_eq_map, List.map_map,
      List.map_map]
    exact Behaviour.similar_failover fun p hp => (ih p hp).behaviour
  | pool _ ih =>
    refine Sink.similar_of_behaviour rfl rfl ?_
    rw [Sink.behaviour, Sink.behaviour, Sink.behaviours_eq_map, Sink.behaviours_eq_map, List.map_map,
      List.map_map]
    exact Behaviour.similar_pool fun p hp => (ih p hp).behaviour
  | routed respects inner ih =>
    refine Sink.similar_of_behaviour rfl rfl ?_
    refine Behaviour.similar_routed ih.behaviour (respects.seesAlike c r) fun panics => ?_
    exact inner.name (respects.full_of_panic panics)
  | firstMatch respects inner ih =>
    rename_i rs
    refine Sink.similar_of_behaviour rfl rfl ?_
    have similar : Behaviour.Similar see c r
        (Behaviour.firstMatch (rs.map fun x => (x.1.skipping, x.2.1.behaviour)))
        (Behaviour.firstMatch (rs.map fun x => (x.1.skipping, x.2.2.behaviour))) := by
      apply Behaviour.similar_firstMatch
      · exact fun x hx => (ih x hx).behaviour
      · exact fun x hx => (respects x hx).seesAlike c r
      · intro x hx panics
        exact (inner x hx).name ((respects x hx).full_of_panic panics)
    simp only [Sink.firstMatchOf, Sink.behaviour, Sink.routeBehaviours_eq_map, List.map_map]
    exact similar
  | recovered respects _ ih =>
    refine Sink.similar_of_behaviour rfl rfl ?_
    exact Behaviour.similar_recovered _ ih.behaviour (respects.run c r)
  | metered m _ ih =>
    exact Sink.similar_of_behaviour rfl rfl (Behaviour.similar_metered m ih.behaviour)
  | hooked _ ih => exact Sink.similar_of_behaviour rfl rfl ih.behaviour
  | around x silent _ ih =>
    refine ih.around (x.whole _) ?_ fun w => ?_
    · rw [x.enabled_wrap]
    · exact Wrapper.turn_wrap silent ih.behaviour.answers_right w

theorem derived (wrapped : Wrapped see full s t) (path : List Derivation) :
    Wrapped see full (path.foldl Sink.derive s) (path.foldl Sink.derive t) := by
  have plain : ∀ {s : Sink σ}, Sink.Built Part.Hookless s → Sink.DerivesPlainly s := by
    intro s built h hp
    have none : h = .none := built.part (fun _ h => h) (.hooks h) hp
    rw [none]
    exact ⟨rfl, rfl⟩
  obtain ⟨left, right⟩ := wrapped.built
  rw [Sink.derive_all_eq_rescope path left.settled (plain left),
    Sink.derive_all_eq_rescope path right.settled (plain right)]
  exact wrapped.rescope _

end Wrapped

def Outcome.Agree : Outcome → Outcome → Prop
  | .fine, .fine => True
  | .failed e, .failed f => e.leaves = f.leaves
  | _, _ => False

theorem Outcome.agree_of_flat {x y : Except SinkError Unit} (same : flat x = flat y) :
    (Outcome.ofResult x).Agree (.ofResult y) := by
  cases x with
  | ok _ =>
    cases y with
    | ok _ => trivial
    | error f => cases same
  | error e =>
    cases y with
    | ok _ => cases same
    | error f => exact Option.some.inj same

namespace Behaviour

theorem handle_recovered (x : Recovery σ) (b : Behaviour σ) (c : Context) (r : Record) (w : World σ) :
    (recovered x b).handle c r w =
      (.ofResult ((recovered x b).guarded c r w).1, ((recovered x b).guarded c r w).2) := by
  rw [guarded_recovered]
  simp only [recovered]
  rcases b.guarded c r w with ⟨_ | _, v⟩ <;> rfl

end Behaviour

namespace Wrapped
variable {see : σ → τ} {full : Prop} {s t : Sink σ} {x : Recovery σ}

theorem enabled_derived (wrapped : Wrapped see full s t) (respects : x.Respects see)
    (path : List Derivation) (c : Context) (level : Level) :
    ∃ on, (path.foldl Logger.derive ⟨.recovered x s, c⟩).enabled level = .ok on ∧
      (path.foldl Logger.derive ⟨.recovered x t, c⟩).enabled level = .ok on := by
  have root : Wrapped see full (.recovered x s) (.recovered x t) := .recovered respects wrapped
  have derived := root.derived (path.filter Derivation.binds)
  have similar := (derived.similar c ⟨⟨0, 0⟩, level, "", []⟩).behaviour
  rw [Call.derive_logger, Call.derive_logger]
  exact ⟨_, similar.answers.enabled, similar.enabled.symm.trans similar.answers.enabled⟩

theorem logIn (wrapped : Wrapped see full s t) (respects : x.Respects see) (c : Context) (q : Call)
    {w v : World σ} (views : w.view see = v.view see) :
    (q.logIn (.recovered x s) c w).1.Agree (q.logIn (.recovered x t) c v).1 ∧
      (q.logIn (.recovered x s) c w).2.view see = (q.logIn (.recovered x t) c v).2.view see := by
  have derived := wrapped.derived (q.path.filter Derivation.binds)
  have root : Wrapped see full (.recovered x _) (.recovered x _) := .recovered respects derived
  have similar := (root.similar c q.record).behaviour
  rw [Call.logIn_eq, Call.logIn_eq, Sink.derived_recovered, Sink.derived_recovered]
  simp only [Logger.log, Logger.enabled, Sink.enabled]
  have left := similar.answers.enabled
  have right := similar.enabled.symm.trans left
  simp only [Call.record] at left right
  rw [left, right]
  cases on : Behaviour.takes c q.level (Sink.recovered x _).behaviour with
  | false => exact ⟨trivial, views⟩
  | true =>
    obtain ⟨answers, after⟩ := Prod.mk.inj (similar.guarded on views)
    simp only [Sink.handle, Sink.behaviour, Behaviour.handle_recovered]
    exact ⟨Outcome.agree_of_flat answers, after⟩

theorem logAllIn (wrapped : Wrapped see full s t) (respects : x.Respects see)
    (calls : List (Context × Call)) {w v : World σ} (views : w.view see = v.view see) :
    List.Forall₂ Outcome.Agree (Call.logAllIn (.recovered x s) calls w).1
        (Call.logAllIn (.recovered x t) calls v).1 ∧
      (Call.logAllIn (.recovered x s) calls w).2.view see =
        (Call.logAllIn (.recovered x t) calls v).2.view see := by
  induction calls generalizing w v with
  | nil => exact ⟨.nil, views⟩
  | cons call rest ih =>
    obtain ⟨c, q⟩ := call
    obtain ⟨agree, views'⟩ := wrapped.logIn respects c q views
    obtain ⟨others, after⟩ := ih views'
    exact ⟨.cons agree others, after⟩

end Wrapped

namespace Sink

/-- Wrappers anywhere inside a recovery are not noticed: whatever is derived and called, both trees are
enabled at the same levels, take and refuse the same calls with the same failures, make the same
deliveries and leave the same seen state and the same draws. -/
theorem wrappers_transparent {see : σ → τ} {full : Prop} {s t : Sink σ} {x : Recovery σ}
    (wrapped : Wrapped see full s t) (respects : x.Respects see) :
    let a := Sink.recovered x s
    let b := Sink.recovered x t
    (∀ (path : List Derivation) (c : Context) (level : Level), ∃ on,
      (path.foldl Logger.derive ⟨a, c⟩).enabled level = .ok on ∧
      (path.foldl Logger.derive ⟨b, c⟩).enabled level = .ok on) ∧
    ∀ (calls : List (Context × Call)) (w : World σ),
      let left := Call.logAllIn a calls w
      let right := Call.logAllIn b calls w
      left.2.deliveries = right.2.deliveries ∧ List.Forall₂ Outcome.Agree left.1 right.1 ∧
        left.2.view see = right.2.view see := by
  constructor
  · exact wrapped.enabled_derived respects
  · intro calls w left right
    obtain ⟨agree, views⟩ := wrapped.logAllIn respects calls (Eq.refl (w.view see))
    exact ⟨congrArg View.deliveries views, agree, views⟩

theorem wrappers_transparent_fanout :
    let leaf := fun (name : String) (answer : Outcome) => Sink.leaf (σ := Unit)
      ⟨name, .empty, .custom (fun _ _ _ => .ok true) fun _ _ _ s => (answer, s)⟩
    let a := leaf "a" (.failed (.other "x"))
    let b := leaf "b" (.panicked (.text "p"))
    let c := leaf "c" .fine
    let s := Sink.fanout [Sink.fanout [a, b], c]
    let t := Sink.fanout [.metered 0 (Sink.fanout [a, .recovered .logging b]), .hooked .none c]
    let calls : List (Context × Call) := [(.background, ⟨[.group "g"], ⟨0, 0⟩, .info, "m", []⟩)]
    let w : World Unit := .start () fun _ => 0
    Wrapped id True s t ∧
      (Call.logAllIn (.recovered .logging s) calls w).2.deliveries =
        (Call.logAllIn (.recovered .logging t) calls w).2.deliveries := by
  intro leaf a b c s t calls w
  have same : ∀ name answer, Wrapped id True (leaf name answer) (leaf name answer) := by
    intro name answer
    apply Wrapped.leaf
    exact ⟨fun _ _ _ _ same => (by cases same), fun _ _ _ _ _ states => ⟨rfl, states⟩⟩
  have inner : Wrapped id True (Sink.fanout [a, b]) (Sink.fanout [a, .recovered .logging b]) := by
    apply @Wrapped.fanout _ _ id True [(a, a), (b, .recovered .logging b)]
    · exact fun _ => List.cons_ne_nil _ _
    · intro p hp
      rcases List.mem_pair.mp hp with rfl | rfl
      · exact same _ _
      · exact .around (.recovery .logging) trivial (same _ _)
  have wrapped : Wrapped id True s t := by
    apply @Wrapped.fanout _ _ id True
      [(_, .metered 0 (Sink.fanout [a, .recovered .logging b])), (c, .hooked .none c)]
    · exact fun _ => List.cons_ne_nil _ _
    · intro p hp
      rcases List.mem_pair.mp hp with rfl | rfl
      · exact .around (.meter 0) trivial inner
      · exact .around .middleware trivial (same _ _)
  have respects : Recovery.logging.Respects (id : Unit → Unit) := trivial
  obtain ⟨_, runs⟩ := wrappers_transparent wrapped respects
  exact ⟨wrapped, (runs calls w).1⟩

/-- Without members around, a predicate that panics is reported under another name; a callback that
writes what a leaf reads, or that looks at how errors are nested, is noticed as well. -/
theorem wrappers_noticed :
    let leaf := fun (name : String) (handle : Nat → Outcome) => Sink.leaf (σ := Nat)
      ⟨name, .empty, .custom (fun _ _ _ => .ok true) fun _ _ _ n => (handle n, n)⟩
    let down := fun name => leaf name fun _ => .failed (.other name)
    let picky := fun least => leaf "picky" fun n =>
      if n < least then .fine else .failed (.other "picky")
    let call : Call := ⟨[], ⟨0, 0⟩, .error, "m", []⟩
    let log := fun s : Sink Nat =>
      (call.logIn (.recovered .logging s) .background (.start 0 fun _ => 0)).1
    let loud : Guard Nat := .ofPredicates [.custom fun _ _ n => (.error (.text "boom"), n)]
    let empty : Sink Nat := Sink.fanout []
    let named := fun s => Sink.routed loud (Sink.fanout [s, down "a"])
    let read := fun s => Sink.fanout [s, picky 1]
    let count : Recovery Nat := .custom fun _ _ _ n => n + 1
    let width : Recovery Nat := .custom fun _ _ e _ => match e with
      | .aggregate es => es.length
      | _ => 0
    let pair := Sink.fanout [down "a", down "b"]
    let nested := fun s => Sink.fanout [.recovered width (Sink.fanout [s, down "c"]), picky 3]
    (log (named empty) = .failed (.panic "a" "boom") ∧
      log (named (.metered 0 empty)) = .failed (.panic "fanout" "boom")) ∧
    (log (read (down "a")) = .failed (.aggregate [.other "a"]) ∧
      log (read (.recovered count (down "a"))) = .failed (.aggregate [.other "a", .other "picky"])) ∧
    log (nested pair) =
        .failed (.aggregate [.aggregate [.other "a", .other "b", .other "c"], .other "picky"]) ∧
      log (nested (.metered 0 pair)) =
        .failed (.aggregate [.aggregate [.aggregate [.other "a", .other "b"], .other "c"]]) :=
  ⟨⟨rfl, rfl⟩, ⟨rfl, rfl⟩, rfl, rfl⟩

end Sink
end LogTree
