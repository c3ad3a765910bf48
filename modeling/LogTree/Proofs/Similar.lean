import LogTree.Proofs.Serves

/-!
Sinks that leaves, predicates and callers cannot tell apart. `see` is what they see of the state of
custom code; events, meters and the nesting of errors are not seen. Composites over members that are
similar are similar, and a fan-out need not have as many members on both sides.
-/
namespace LogTree
variable {σ τ : Type}

structure View (τ : Type) where
  state : τ
  deliveries : Array Delivery
  draws : Nat → Nat
  drawn : Nat

def World.view (see : σ → τ) (w : World σ) : View τ := ⟨see w.state, w.deliveries, w.draws, w.drawn⟩

def flat : Except SinkError Unit → Option (List SinkError)
  | .ok () => none
  | .error e => some e.leaves

theorem flat_join (es : List SinkError) :
    flat (SinkError.join es) = if es = [] then none else some (es.flatMap SinkError.leaves) := by
  cases es with
  | nil => rfl
  | cons e es =>
    rw [if_neg (List.cons_ne_nil e es), ← SinkError.leaves_aggregate]
    rfl

theorem flat_join_single (e : SinkError) : flat (SinkError.join [e]) = flat (.error e) := by
  rw [flat_join, if_neg (List.cons_ne_nil e []), List.flatMap_singleton]
  rfl

theorem flat_join_append (es fs : List SinkError) :
    flat (SinkError.join (es ++ fs)) =
      (flat (SinkError.join es)).merge (· ++ ·) (flat (SinkError.join fs)) := by
  simp only [flat_join]
  cases es <;> cases fs <;> simp

def observe (see : σ → τ) (run : Except SinkError Unit × World σ) : Option (List SinkError) × View τ :=
  (flat run.1, run.2.view see)

theorem observe_cases {see : σ → τ} {left right : Except SinkError Unit × World σ}
    (same : observe see left = observe see right) :
    ∃ w v, w.view see = v.view see ∧
      (left = (.ok (), w) ∧ right = (.ok (), v) ∨
        ∃ e f, left = (.error e, w) ∧ right = (.error f, v) ∧ e.leaves = f.leaves) := by
  obtain ⟨x, w⟩ := left
  obtain ⟨y, v⟩ := right
  obtain ⟨answers, views⟩ := Prod.mk.inj same
  refine ⟨w, v, views, ?_⟩
  cases x with
  | ok a =>
    cases y with
    | ok b => exact .inl ⟨rfl, rfl⟩
    | error f => cases answers
  | error e =>
    cases y with
    | ok b => cases answers
    | error f => exact .inr ⟨e, f, rfl, rfl, Option.some.inj answers⟩

theorem observe_ok {see : σ → τ} {w v : World σ} (views : w.view see = v.view see) :
    observe see (.ok (), w) = observe see (.ok (), v) := congrArg (Prod.mk none) views

theorem observe_error {see : σ → τ} {e f : SinkError} {w v : World σ} (leaves : e.leaves = f.leaves)
    (views : w.view see = v.view see) : observe see (.error e, w) = observe see (.error f, v) :=
  Prod.ext (congrArg some leaves) views

namespace Behaviour

theorem observe_fence {see : σ → τ} {w v : World σ} (name : String) (o : Outcome)
    (views : w.view see = v.view see) :
    observe see (fence name (o, w)) = observe see (fence name (o, v)) := by
  cases o with
  | fine => exact observe_ok views
  | failed e => exact observe_error rfl views
  | panicked p => exact observe_error rfl views

/-- What is seen of offering a record to a sink: nothing, if the sink does not take the level. -/
def turn (see : σ → τ) (c : Context) (r : Record) (b : Behaviour σ) (w : World σ) :
    Option (List SinkError) × View τ :=
  if b.takes c r.level then observe see (b.guarded c r w) else (none, w.view see)

/-- Two members that go the same way whenever they have a turn. -/
structure Similar (see : σ → τ) (c : Context) (r : Record) (a b : Behaviour σ) : Prop where
  answers : a.Answers c r.level
  enabled : a.enabled c r.level = b.enabled c r.level
  turn : ∀ w v, w.view see = v.view see → turn see c r a w = turn see c r b v

section
variable {see : σ → τ} {c : Context} {r : Record} {a b : Behaviour σ}

theorem takes_congr {l : Level} (same : a.enabled c l = b.enabled c l) :
    a.takes c l = b.takes c l := by
  rw [takes, takes, same]

theorem Similar.of_guarded (answers : a.Answers c r.level)
    (enabled : a.enabled c r.level = b.enabled c r.level)
    (run : a.takes c r.level = true → ∀ w v, w.view see = v.view see →
      observe see (a.guarded c r w) = observe see (b.guarded c r v)) : Similar see c r a b where
  answers := answers
  enabled := enabled
  turn w v views := by
    rw [Behaviour.turn, Behaviour.turn, ← takes_congr enabled]
    cases on : a.takes c r.level with
    | false => exact congrArg (Prod.mk none) views
    | true => exact run on w v views

theorem Similar.guarded (similar : Similar see c r a b) (on : a.takes c r.level = true)
    {w v : World σ} (views : w.view see = v.view see) :
    observe see (a.guarded c r w) = observe see (b.guarded c r v) := by
  have turns := similar.turn w v views
  have on' : b.takes c r.level = true := takes_congr similar.enabled ▸ on
  rwa [Behaviour.turn, Behaviour.turn, if_pos on, if_pos on'] at turns

theorem Similar.answers_right (similar : Similar see c r a b) : b.Answers c r.level := by
  intro p
  rw [← similar.enabled]
  exact similar.answers p

/-- Two lists of members that fail alike when each of them is offered the record. -/
def OffersAlike (see : σ → τ) (c : Context) (r : Record) (as bs : List (Behaviour σ)) : Prop :=
  ∀ w v, w.view see = v.view see → ∃ es fs w' v',
    offerAll c r as w = (.ok es, w') ∧ offerAll c r bs v = (.ok fs, v') ∧
    observe see (SinkError.join es, w') = observe see (SinkError.join fs, v')

theorem offersAlike_nil : OffersAlike see c r ([] : List (Behaviour σ)) [] :=
  fun w v views => ⟨[], [], w, v, rfl, rfl, congrArg (Prod.mk none) views⟩

theorem OffersAlike.append {as as' bs bs' : List (Behaviour σ)} (first : OffersAlike see c r as as')
    (rest : OffersAlike see c r bs bs') : OffersAlike see c r (as ++ bs) (as' ++ bs') := by
  intro w v views
  obtain ⟨es, es', w₁, v₁, left, right, same⟩ := first w v views
  obtain ⟨answers, views₁⟩ := Prod.mk.inj same
  obtain ⟨fs, fs', w₂, v₂, left', right', same'⟩ := rest w₁ v₁ views₁
  obtain ⟨answers', views₂⟩ := Prod.mk.inj same'
  refine ⟨es ++ fs, es' ++ fs', w₂, v₂, ?_, ?_, ?_⟩
  · rw [offerAll_append left, left']
  · rw [offerAll_append right, right']
  · refine Prod.ext ?_ views₂
    simp only [observe, flat_join_append, answers, answers']

theorem offerAll_single (see : σ → τ) (answers : b.Answers c r.level) (w : World σ) :
    ∃ es u, offerAll c r [b] w = (.ok es, u) ∧
      observe see (SinkError.join es, u) = turn see c r b w := by
  simp only [offerAll, answers.enabled, turn]
  cases on : b.takes c r.level with
  | false => exact ⟨[], w, rfl, rfl⟩
  | true =>
    rcases b.guarded c r w with ⟨e | _, u⟩
    · refine ⟨[e], u.note (.memberFailed b.name e.text), rfl, ?_⟩
      exact Prod.ext (flat_join_single e) rfl
    · exact ⟨[], u, rfl, rfl⟩

theorem offerAll_turn {ms : List (Behaviour σ)} {es : List SinkError} {w u : World σ}
    (ran : offerAll c r ms w = (.ok es, u)) (answers : (fanout ms).Answers c r.level) :
    observe see (SinkError.join es, u) = turn see c r (fanout ms) w := by
  have enabled := answers.enabled
  rw [turn]
  cases on : (fanout ms).takes c r.level with
  | false =>
    rw [on] at enabled
    have silent := offered_of_silent enabled w
    rw [silent] at ran
    cases ran
    rfl
  | true =>
    rw [if_pos rfl, guarded_eq_fence]
    simp only [fanout, ran, fence_ofResult]

/-- The members on the right had their turns one by one; `b` has one turn as a whole. -/
theorem OffersAlike.whole {as bs : List (Behaviour σ)} (alike : OffersAlike see c r as bs)
    (answers : b.Answers c r.level)
    (turns : ∀ {fs v u}, offerAll c r bs v = (.ok fs, u) →
      observe see (SinkError.join fs, u) = turn see c r b v) : OffersAlike see c r as [b] := by
  intro w v views
  obtain ⟨es, fs, w', v', left, right, same⟩ := alike w v views
  obtain ⟨gs, u, single, after⟩ := offerAll_single see answers v
  exact ⟨es, gs, w', u, left, single, same.trans ((turns right).trans after.symm)⟩

section Lists
variable {α : Type} {xs : List α} {f g : α → Behaviour σ}

theorem similar_firstSuccess (similar : ∀ x ∈ xs, Similar see c r (f x) (g x))
    {last last' : Option SinkError} (lasts : last.map SinkError.leaves = last'.map SinkError.leaves)
    {w v : World σ} (views : w.view see = v.view see) :
    ∃ x y w' v', firstSuccess c r (xs.map f) last w = (.ofResult x, w') ∧
      firstSuccess c r (xs.map g) last' v = (.ofResult y, v') ∧
      observe see (x, w') = observe see (y, v') := by
  induction xs generalizing last last' w v with
  | nil =>
    cases last with
    | none =>
      cases last' with
      | none => exact ⟨.ok (), .ok (), w, v, rfl, rfl, observe_ok views⟩
      | some f => cases lasts
    | some e =>
      cases last' with
      | none => cases lasts
      | some f =>
        have leaves : e.leaves = f.leaves := Option.some.inj lasts
        exact ⟨.error e, .error f, w, v, rfl, rfl, observe_error leaves views⟩
  | cons x rest ih =>
    obtain ⟨first, others⟩ := List.forall_mem_cons.mp similar
    simp only [List.map_cons, firstSuccess, ← first.enabled, first.answers.enabled]
    cases on : (f x).takes c r.level with
    | false => exact ih others lasts views
    | true =>
      obtain ⟨w', v', views', ⟨left, right⟩ | ⟨e, e', left, right, leaves⟩⟩ :=
        observe_cases (first.guarded on views) <;> rw [left, right]
      · exact ⟨.ok (), .ok (), w', v', rfl, rfl, observe_ok views'⟩
      · have errors : (some e).map SinkError.leaves = (some e').map SinkError.leaves :=
          congrArg some leaves
        exact ih others errors views'

theorem similar_anyEnabled (similar : ∀ x ∈ xs, Similar see c r (f x) (g x)) :
    (∀ p, anyEnabled c r.level (xs.map f) ≠ .error p) ∧
      anyEnabled c r.level (xs.map f) = anyEnabled c r.level (xs.map g) := by
  constructor
  · refine anyEnabled_answers fun b hb => ?_
    obtain ⟨x, hx, rfl⟩ := List.mem_map.mp hb
    exact (similar x hx).answers
  · exact anyEnabled_congr fun x hx => (similar x hx).enabled

theorem guarded_of_handle {x : Except SinkError Unit} {w v : World σ}
    (ran : b.handle c r w = (.ofResult x, v)) : b.guarded c r w = (x, v) := by
  rw [guarded_eq_fence, ran]
  exact fence_ofResult _ _ _

theorem similar_failover (similar : ∀ x ∈ xs, Similar see c r (f x) (g x)) :
    Similar see c r (failover (xs.map f)) (failover (xs.map g)) := by
  obtain ⟨answers, enabled⟩ := similar_anyEnabled similar
  refine Similar.of_guarded answers enabled fun _ w v views => ?_
  obtain ⟨x, y, w', v', left, right, same⟩ := similar_firstSuccess similar (Eq.refl (none.map _)) views
  have left' : (failover (xs.map f)).guarded c r w = (x, w') := guarded_of_handle left
  have right' : (failover (xs.map g)).guarded c r v = (y, v') := guarded_of_handle right
  rw [left', right', same]

theorem similar_pool (similar : ∀ x ∈ xs, Similar see c r (f x) (g x)) :
    Similar see c r (pool (xs.map f)) (pool (xs.map g)) := by
  obtain ⟨answers, enabled⟩ := similar_anyEnabled similar
  refine Similar.of_guarded answers enabled fun _ w v views => ?_
  cases xs with
  | nil => exact observe_ok views
  | cons x rest =>
    have draws : w.draws = v.draws := congrArg View.draws views
    have drawn : w.drawn = v.drawn := congrArg View.drawn views
    have start : ∀ n, (w.draw n).1 = (v.draw n).1 := by
      intro n
      simp only [World.draw, draws, drawn]
    have after : ∀ n, (w.draw n).2.view see = (v.draw n).2.view see := by
      intro n
      simp only [World.draw, World.view, View.mk.injEq] at views ⊢
      exact ⟨views.1, views.2.1, draws, by rw [drawn]⟩
    have rotated : ∀ y ∈ rotate (w.draw (rest.length + 1)).1 (x :: rest),
        Similar see c r (f y) (g y) := fun y hy => similar y (mem_rotate.mp hy)
    obtain ⟨y, z, w', v', left, right, same⟩ :=
      similar_firstSuccess rotated (Eq.refl (none.map _)) (after (rest.length + 1))
    rw [← rotate_map] at left right
    rw [start] at right
    have left' : (pool ((x :: rest).map f)).guarded c r w = (y, w') := by
      refine guarded_of_handle ?_
      simpa [pool] using left
    have right' : (pool ((x :: rest).map g)).guarded c r v = (z, v') := by
      refine guarded_of_handle ?_
      simpa [pool] using right
    rw [left', right', same]

end Lists

def SeesAlike (see : σ → τ) (c : Context) (r : Record) (g : Guard σ) : Prop :=
  ∀ w v : World σ, w.view see = v.view see →
    (g.isMatch c r w).1 = (g.isMatch c r v).1 ∧
      (g.isMatch c r w).2.view see = (g.isMatch c r v).2.view see

theorem similar_routed {g : Guard σ} (similar : Similar see c r a b) (sees : SeesAlike see c r g)
    (names : (∃ w p, (g.isMatch c r w).1 = .error p) → a.name = b.name) :
    Similar see c r (routed g a) (routed g b) := by
  refine Similar.of_guarded similar.answers similar.enabled fun on w v views => ?_
  have target : ∀ {w v : World σ}, w.view see = v.view see →
      observe see (a.guarded c r w) = observe see (b.guarded c r v) := similar.guarded on
  rw [guarded_routed, guarded_routed]
  by_cases marked : g.matched = true
  · rw [if_pos marked, if_pos marked]
    exact target views
  · rw [if_neg marked, if_neg marked]
    obtain ⟨answers, views'⟩ := sees w v views
    rcases left : g.isMatch c r w with ⟨p | _ | _, w'⟩ <;>
      rcases right : g.isMatch c r v with ⟨q | _ | _, v'⟩ <;>
      rw [left, right] at answers views' <;> cases answers
    · have named := names ⟨w, p, by rw [left]⟩
      rw [named]
      exact observe_error rfl views'
    · exact observe_ok views'
    · exact target views'

theorem similar_recovered (recovery : Recovery σ) (similar : Similar see c r a b)
    (reports : ∀ (e f : SinkError) (w v : World σ), e.leaves = f.leaves → w.view see = v.view see →
      (recovery.run c r e w).view see = (recovery.run c r f v).view see) :
    Similar see c r (recovered recovery a) (recovered recovery b) := by
  refine Similar.of_guarded similar.answers similar.enabled fun on w v views => ?_
  rw [guarded_recovered, guarded_recovered]
  obtain ⟨w', v', views', ⟨left, right⟩ | ⟨e, e', left, right, leaves⟩⟩ :=
    observe_cases (similar.guarded on views) <;> rw [left, right]
  · exact observe_ok views'
  · exact observe_error leaves (reports e e' w' v' leaves views')

theorem similar_metered (m : MeterId) (similar : Similar see c r a b) :
    Similar see c r (metered m a) (metered m b) := by
  refine Similar.of_guarded similar.answers similar.enabled fun on w v views => ?_
  have onLeft : a.enabled c r.level = .ok true :=
    similar.answers.enabled.trans (congrArg Except.ok on)
  have onRight : b.enabled c r.level = .ok true := similar.enabled ▸ onLeft
  rw [guarded_metered onLeft, guarded_metered onRight]
  obtain ⟨w', v', views', ⟨left, right⟩ | ⟨e, e', left, right, leaves⟩⟩ :=
    observe_cases (similar.guarded on views) <;> rw [left, right]
  · exact observe_ok views'
  · exact observe_error leaves views'

theorem similar_firstMatch {α : Type} {xs : List α} {f g : α → Behaviour σ} {gd : α → Guard σ}
    (similar : ∀ x ∈ xs, Similar see c r (f x) (g x)) (sees : ∀ x ∈ xs, SeesAlike see c r (gd x))
    (names : ∀ x ∈ xs, (∃ w p, ((gd x).isMatch c r w).1 = .error p) → (f x).name = (g x).name) :
    Similar see c r (firstMatch (xs.map fun x => (gd x, f x)))
      (firstMatch (xs.map fun x => (gd x, g x))) := by
  obtain ⟨answers, enabled⟩ := similar_anyEnabled similar
  have routes : ∀ h : α → Behaviour σ, ∀ l,
      (firstMatch (xs.map fun x => (gd x, h x))).enabled c l = anyEnabled c l (xs.map h) := by
    intro h l
    simp only [firstMatch, List.map_map]
    exact anyEnabled_congr fun x _ => rfl
  rw [← routes f, ← routes g] at enabled
  refine Similar.of_guarded (fun p => routes f _ ▸ answers p) enabled fun on => ?_
  clear answers enabled routes on
  induction xs with
  | nil => exact fun w v views => observe_ok views
  | cons x rest ih =>
    intro w v views
    obtain ⟨first, others⟩ := List.forall_mem_cons.mp similar
    obtain ⟨sees, seesRest⟩ := List.forall_mem_cons.mp sees
    obtain ⟨name, namesRest⟩ := List.forall_mem_cons.mp names
    have route := similar_routed first sees name
    rw [List.map_cons, List.map_cons, guarded_eq_fence, guarded_eq_fence, handle_firstMatch_cons,
      handle_firstMatch_cons, ← first.enabled, first.answers.enabled]
    obtain ⟨matched, views'⟩ := sees w v views
    rcases left : (gd x).isMatch c r w with ⟨p | _ | _, w'⟩ <;>
      rcases right : (gd x).isMatch c r v with ⟨q | _ | _, v'⟩ <;>
      rw [left, right] at matched views' <;> cases matched
    · exact observe_error rfl views'
    · exact ih others seesRest namesRest w' v' views'
    · cases on : (f x).takes c r.level with
      | false => exact observe_ok views'
      | true =>
        simp only [fence_ofResult]
        exact route.guarded on views'

theorem turn_recovered {recovery : Recovery σ}
    (silent : ∀ e (w : World σ), (recovery.run c r e w).view see = w.view see) (w : World σ) :
    turn see c r (recovered recovery b) w = turn see c r b w := by
  have same : (recovered recovery b).takes c r.level = b.takes c r.level := rfl
  have answer : observe see ((recovered recovery b).guarded c r w) =
      observe see (b.guarded c r w) := by
    rw [guarded_recovered]
    rcases b.guarded c r w with ⟨e | _, v⟩
    · exact observe_error rfl (silent e v)
    · rfl
  rw [turn, turn, same, answer]

theorem turn_metered (m : MeterId) (answers : b.Answers c r.level) (w : World σ) :
    turn see c r (metered m b) w = turn see c r b w := by
  have same : (metered m b).takes c r.level = b.takes c r.level := rfl
  rw [turn, turn, same]
  cases on : b.takes c r.level with
  | false => rfl
  | true =>
    have enabled : b.enabled c r.level = .ok true := by rw [answers.enabled, on]
    rw [if_pos rfl, if_pos rfl, guarded_metered enabled]
    rcases b.guarded c r w with ⟨e | _, v⟩ <;> rfl

theorem turn_routed_nothing (scope : Scope) (w : World σ) :
    turn see c r (routed ⟨[], scope, false⟩ b) w = turn see c r b w := by
  have same : (routed ⟨[], scope, false⟩ b).takes c r.level = b.takes c r.level := rfl
  have answer : (routed ⟨[], scope, false⟩ b).guarded c r w = b.guarded c r w :=
    guarded_routed _ b c r w
  rw [turn, turn, same, answer]

end
end Behaviour

namespace Sink
open Behaviour

/-- Alike on their own, and as members of a fan-out, which may take the members of either as its own. -/
structure Similar (see : σ → τ) (c : Context) (r : Record) (s t : Sink σ) : Prop where
  behaviour : Behaviour.Similar see c r s.behaviour t.behaviour
  offers : OffersAlike see c r (behaviours s.members) (behaviours t.members)

section
variable {see : σ → τ} {c : Context} {r : Record} {s t : Sink σ}

theorem turn_of_offers (see : σ → τ) (answers : s.behaviour.Answers c r.level)
    {es : List SinkError} {w u : World σ}
    (ran : offerAll c r (behaviours s.members) w = (.ok es, u)) :
    observe see (SinkError.join es, u) = turn see c r s.behaviour w := by
  cases s with
  | spread ms => exact offerAll_turn ran answers
  | _ =>
    obtain ⟨fs, v, single, same⟩ := offerAll_single see answers w
    have ran' := single.symm.trans ran
    cases ran'
    exact same

theorem offersAlike_single {a b : Behaviour σ} (similar : Behaviour.Similar see c r a b) :
    OffersAlike see c r [a] [b] := by
  intro w v views
  obtain ⟨es, w', left, turnLeft⟩ := offerAll_single see similar.answers w
  obtain ⟨fs, v', right, turnRight⟩ := offerAll_single see similar.answers_right v
  have same := similar.turn w v views
  exact ⟨es, fs, w', v', left, right, turnLeft.trans (same.trans turnRight.symm)⟩

theorem similar_of_behaviour (left : s.fanoutMembers? = none) (right : t.fanoutMembers? = none)
    (similar : Behaviour.Similar see c r s.behaviour t.behaviour) : Similar see c r s t := by
  refine ⟨similar, ?_⟩
  rw [members_of_no_fanout left, members_of_no_fanout right]
  exact offersAlike_single similar

/-- What goes the same way as the right-hand side may stand in its place. -/
theorem Similar.around (similar : Similar see c r s t) {t' : Sink σ}
    (whole : t'.fanoutMembers? = none)
    (enabled : t'.behaviour.enabled c r.level = t.behaviour.enabled c r.level)
    (turns : ∀ w, turn see c r t'.behaviour w = turn see c r t.behaviour w) :
    Similar see c r s t' := by
  have answers : t'.behaviour.Answers c r.level := by
    intro p
    rw [enabled]
    exact similar.behaviour.answers_right p
  constructor
  · refine ⟨similar.behaviour.answers, similar.behaviour.enabled.trans enabled.symm, ?_⟩
    intro w v views
    rw [turns]
    exact similar.behaviour.turn w v views
  · rw [members_of_no_fanout whole]
    refine similar.offers.whole answers fun ran => ?_
    exact (turn_of_offers see similar.behaviour.answers_right ran).trans (turns _).symm

theorem offersAlike_flatten {ps : List (Sink σ × Sink σ)}
    (similar : ∀ p ∈ ps, Similar see c r p.1 p.2) :
    OffersAlike see c r (behaviours (flatten (ps.map Prod.fst)))
      (behaviours (flatten (ps.map Prod.snd))) := by
  induction ps with
  | nil => exact offersAlike_nil
  | cons p rest ih =>
    obtain ⟨first, others⟩ := List.forall_mem_cons.mp similar
    rw [List.map_cons, List.map_cons, behaviours_flatten_cons, behaviours_flatten_cons]
    exact first.offers.append (ih others)

theorem similar_fanout {ps : List (Sink σ × Sink σ)} (similar : ∀ p ∈ ps, Similar see c r p.1 p.2)
    (left : ∀ m ∈ flatten (ps.map Prod.fst), m.fanoutMembers? = none)
    (right : ∀ m ∈ flatten (ps.map Prod.snd), m.fanoutMembers? = none) :
    Similar see c r (Sink.fanout (ps.map Prod.fst)) (Sink.fanout (ps.map Prod.snd)) := by
  have membersLeft := members_fanout left
  have membersRight := members_fanout right
  have offers := offersAlike_flatten similar
  rw [← membersLeft, ← membersRight] at offers
  let takes : Sink σ × Sink σ → Bool := fun p => p.1.behaviour.takes c r.level
  have enabledLeft : (Sink.fanout (ps.map Prod.fst)).behaviour.enabled c r.level =
      .ok (ps.any takes) := by
    rw [← enabled_members, membersLeft]
    exact enabled_flatten fun p hp => (similar p hp).behaviour.answers.enabled
  have enabledRight : (Sink.fanout (ps.map Prod.snd)).behaviour.enabled c r.level =
      .ok (ps.any takes) := by
    rw [← enabled_members, membersRight]
    refine enabled_flatten fun p hp => ?_
    rw [← (similar p hp).behaviour.enabled]
    exact (similar p hp).behaviour.answers.enabled
  have answersLeft := answers_of_ok enabledLeft
  have answersRight := answers_of_ok enabledRight
  refine ⟨⟨answersLeft, enabledLeft.trans enabledRight.symm, ?_⟩, offers⟩
  intro w v views
  obtain ⟨es, fs, w', v', ranLeft, ranRight, same⟩ := offers w v views
  rw [← turn_of_offers see answersLeft ranLeft, ← turn_of_offers see answersRight ranRight, same]

end
end Sink
end LogTree
