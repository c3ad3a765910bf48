import LogTree.Proofs.Tree

/-!
Fault boundaries: what a composite makes of a panic in a member. Handling goes through a boundary in
every composite; the level check and the search for a route do not, and a router with one route is
that route. Members are arbitrary behaviours.
-/
namespace LogTree
variable {σ : Type}

def Outcome.Returns (o : Outcome) : Prop := ∀ p, o ≠ .panicked p

theorem Outcome.returns_fine : Outcome.fine.Returns := fun _ same => by cases same

theorem Outcome.returns_failed (e : SinkError) : (Outcome.failed e).Returns :=
  fun _ same => by cases same

theorem Outcome.returns_ofResult (x : Except SinkError Unit) : (Outcome.ofResult x).Returns := by
  cases x with
  | ok => exact returns_fine
  | error e => exact returns_failed e

theorem Outcome.not_returns_panicked (p : Payload) : ¬ (Outcome.panicked p).Returns :=
  fun h => h p rfl

namespace Behaviour

def Answers (b : Behaviour σ) (c : Context) (l : Level) : Prop := ∀ p, b.enabled c l ≠ .error p

/-- What the boundary around a sink called `name` makes of its answer. -/
def fence (name : String) : Outcome × World σ → Except SinkError Unit × World σ
  | (.fine, v) => (.ok (), v)
  | (.failed e, v) => (.error e, v)
  | (.panicked p, v) => (.error (.panic name p.message), v.note (.panicked name p.message))

theorem guarded_eq_fence (b : Behaviour σ) (c : Context) (r : Record) (w : World σ) :
    b.guarded c r w = fence b.name (b.handle c r w) := rfl

theorem fence_ofResult (name : String) (x : Except SinkError Unit) (w : World σ) :
    fence name (.ofResult x, w) = (x, w) := by
  cases x <;> rfl

/-- The boundary around a route is the boundary around its target once the guard has decided. -/
theorem guarded_routed (g : Guard σ) (b : Behaviour σ) (c : Context) (r : Record) (w : World σ) :
    (routed g b).guarded c r w =
      if g.matched then b.guarded c r w
      else match g.isMatch c r w with
        | (.ok true, v) => b.guarded c r v
        | (.ok false, v) => (.ok (), v.note (.notRouted b.name r.message))
        | (.error p, v) => (.error (.panic b.name p.message), v.note (.panicked b.name p.message)) := by
  simp only [guarded_eq_fence, routed]
  by_cases marked : g.matched = true
  · simp only [if_pos marked]
  · simp only [if_neg marked]
    rcases g.isMatch c r w with ⟨_ | _ | _, v⟩ <;> rfl

theorem guarded_recovered (recovery : Recovery σ) (b : Behaviour σ) (c : Context) (r : Record)
    (w : World σ) :
    (recovered recovery b).guarded c r w =
      match b.guarded c r w with
      | (.ok (), v) => (.ok (), v)
      | (.error e, v) => (.error e, recovery.run c r e v) := by
  rw [guarded_eq_fence (recovered recovery b)]
  simp only [recovered]
  rcases b.guarded c r w with ⟨_ | _, v⟩ <;> rfl

theorem guarded_metered {b : Behaviour σ} {c : Context} {r : Record}
    (on : b.enabled c r.level = .ok true) (m : MeterId) (w : World σ) :
    (metered m b).guarded c r w =
      match b.guarded c r w with
      | (.ok (), v) => (.ok (), v.tick m .handled)
      | (.error e, v) => (.error e, v.tick m .failed) := by
  rw [guarded_eq_fence (metered m b)]
  simp only [metered, on]
  rcases b.guarded c r w with ⟨_ | _, v⟩ <;> rfl

theorem handle_firstMatch_cons (g : Guard σ) (b : Behaviour σ) (rest : List (Route σ))
    (c : Context) (r : Record) (w : World σ) :
    (firstMatch ((g, b) :: rest)).handle c r w =
      match g.isMatch c r w with
      | (.error p, v) => (.panicked p, v)
      | (.ok false, v) => (firstMatch rest).handle c r v
      | (.ok true, v) =>
        match b.enabled c r.level with
        | .error p => (.panicked p, v)
        | .ok false => (.fine, v.note (.winnerDisabled b.name r.level))
        | .ok true =>
          (.ofResult ((routed g b).guarded c r v).1,
            ((routed g b).guarded c r v).2) := by
  simp only [firstMatch, firstMatching]
  rcases g.isMatch c r w with ⟨_ | _ | _, v⟩ <;> rfl

/-- The same sink, had it returned its panics as the errors that name it. -/
def fenced (b : Behaviour σ) : Behaviour σ where
  name := b.name
  enabled := b.enabled
  handle c r w :=
    match b.handle c r w with
    | (.panicked p, v) =>
      (.failed (.panic b.name p.message), v.note (.panicked b.name p.message))
    | other => other

/-- Two members that no composite tells apart on one record. -/
structure Alike (c : Context) (r : Record) (a b : Behaviour σ) : Prop where
  name : a.name = b.name
  enabled : a.enabled c r.level = b.enabled c r.level
  guarded : ∀ w, a.guarded c r w = b.guarded c r w

structure Same (c : Context) (r : Record) (a b : Behaviour σ) : Prop where
  name : a.name = b.name
  enabled : a.enabled c r.level = b.enabled c r.level
  handle : ∀ w, a.handle c r w = b.handle c r w

theorem Same.alike {c : Context} {r : Record} {a b : Behaviour σ} (same : Same c r a b) :
    Alike c r a b where
  name := same.name
  enabled := same.enabled
  guarded w := by rw [guarded_eq_fence, guarded_eq_fence, same.handle, same.name]

theorem alike_fenced (b : Behaviour σ) (c : Context) (r : Record) : Alike c r b.fenced b where
  name := rfl
  enabled := rfl
  guarded w := by
    rcases h : b.handle c r w with ⟨o, v⟩
    cases o <;> simp [guarded_eq_fence, fence, fenced, h]

section Composites
variable {α : Type} {xs : List α} {f g : α → Behaviour σ} {c : Context} {r : Record}

theorem anyEnabled_congr {l : Level} (same : ∀ x ∈ xs, (f x).enabled c l = (g x).enabled c l) :
    anyEnabled c l (xs.map f) = anyEnabled c l (xs.map g) := by
  induction xs with
  | nil => rfl
  | cons x xs ih =>
    obtain ⟨first, others⟩ := List.forall_mem_cons.mp same
    simp only [List.map_cons, anyEnabled, first, ih others]

theorem offerAll_alike (alike : ∀ x ∈ xs, Alike c r (f x) (g x)) (w : World σ) :
    offerAll c r (xs.map f) w = offerAll c r (xs.map g) w := by
  induction xs generalizing w with
  | nil => rfl
  | cons x xs ih =>
    obtain ⟨first, others⟩ := List.forall_mem_cons.mp alike
    simp only [List.map_cons, offerAll, first.enabled, first.guarded, first.name, ih others]

theorem firstSuccess_alike (alike : ∀ x ∈ xs, Alike c r (f x) (g x)) (last : Option SinkError)
    (w : World σ) : firstSuccess c r (xs.map f) last w = firstSuccess c r (xs.map g) last w := by
  induction xs generalizing last w with
  | nil => rfl
  | cons x xs ih =>
    obtain ⟨first, others⟩ := List.forall_mem_cons.mp alike
    simp only [List.map_cons, firstSuccess, first.enabled, first.guarded, first.name, ih others]

theorem fanout_alike (alike : ∀ x ∈ xs, Alike c r (f x) (g x)) (w : World σ) :
    (fanout (xs.map f)).handle c r w = (fanout (xs.map g)).handle c r w := by
  simp only [fanout, offerAll_alike alike]

theorem failover_alike (alike : ∀ x ∈ xs, Alike c r (f x) (g x)) (w : World σ) :
    (failover (xs.map f)).handle c r w = (failover (xs.map g)).handle c r w :=
  firstSuccess_alike alike none w

theorem rotate_map {β : Type} (h : α → β) (start : Nat) (xs : List α) :
    rotate start (xs.map h) = (rotate start xs).map h := by
  simp only [rotate, List.map_append, List.map_drop, List.map_take]

theorem mem_rotate {start : Nat} {x : α} : x ∈ rotate start xs ↔ x ∈ xs := by
  rw [rotate, List.mem_append, or_comm, ← List.mem_append, List.take_append_drop]

theorem pool_alike (alike : ∀ x ∈ xs, Alike c r (f x) (g x)) (w : World σ) :
    (pool (xs.map f)).handle c r w = (pool (xs.map g)).handle c r w := by
  simp only [pool, List.isEmpty_map, List.length_map, rotate_map]
  split
  · rfl
  · exact firstSuccess_alike (fun x hx => alike x (mem_rotate.mp hx)) none _

/-- A search over two lists of routes that match alike ends alike. -/
theorem firstMatching_alike {f g : α → Route σ}
    (same : ∀ x ∈ xs, ∀ w, (f x).1.isMatch c r w = (g x).1.isMatch c r w) (w : World σ) :
    (∃ p v, firstMatching c r (xs.map f) w = (.error p, v) ∧
      firstMatching c r (xs.map g) w = (.error p, v)) ∨
    (∃ v, firstMatching c r (xs.map f) w = (.ok none, v) ∧
      firstMatching c r (xs.map g) w = (.ok none, v)) ∨
    (∃ x ∈ xs, ∃ v, firstMatching c r (xs.map f) w = (.ok (some (f x)), v) ∧
      firstMatching c r (xs.map g) w = (.ok (some (g x)), v)) := by
  induction xs generalizing w with
  | nil => exact .inr (.inl ⟨w, rfl, rfl⟩)
  | cons x xs ih =>
    obtain ⟨first, others⟩ := List.forall_mem_cons.mp same
    simp only [List.map_cons, firstMatching, first]
    rcases (g x).1.isMatch c r w with ⟨_ | _ | _, v⟩
    · exact .inl ⟨_, v, rfl, rfl⟩
    · rcases ih others v with panics | none | ⟨y, hy, found⟩
      · exact .inl panics
      · exact .inr (.inl none)
      · exact .inr (.inr ⟨y, List.mem_cons_of_mem x hy, found⟩)
    · exact .inr (.inr ⟨x, List.mem_cons_self, v, rfl, rfl⟩)

theorem firstMatch_alike {f g : α → Route σ}
    (same : ∀ x ∈ xs, ∀ w, (f x).1.isMatch c r w = (g x).1.isMatch c r w)
    (alike : ∀ x ∈ xs, Alike c r (f x).2 (g x).2 ∧
      Alike c r (routed (f x).1 (f x).2) (routed (g x).1 (g x).2)) (w : World σ) :
    (firstMatch (xs.map f)).handle c r w = (firstMatch (xs.map g)).handle c r w := by
  rcases firstMatching_alike same w with ⟨p, v, hf, hg⟩ | ⟨v, hf, hg⟩ | ⟨x, hx, v, hf, hg⟩
  · simp only [firstMatch, hf, hg]
  · simp only [firstMatch, hf, hg]
  · obtain ⟨target, route⟩ := alike x hx
    simp only [firstMatch, hf, hg, target.enabled, target.name, route.guarded]

theorem routed_alike {a b : Behaviour σ} (gd : Guard σ) (alike : Alike c r a b) :
    Alike c r (routed gd a) (routed gd b) where
  name := alike.name
  enabled := alike.enabled
  guarded w := by
    have target : ∀ w, fence b.name (a.handle c r w) = fence b.name (b.handle c r w) := by
      intro w
      rw [← guarded_eq_fence b, ← alike.guarded w, guarded_eq_fence a, alike.name]
    simp only [guarded_eq_fence, routed, alike.name]
    by_cases marked : gd.matched = true
    · simp only [if_pos marked, target]
    · rcases gd.isMatch c r w with ⟨_ | _ | _, v⟩ <;> simp only [if_neg marked, target]

end Composites

/-- The members whose level a failover asks for: up to the first that takes the record. -/
def asked (c : Context) (r : Record) : List (Behaviour σ) → World σ → List (Behaviour σ)
  | [], _ => []
  | b :: rest, w =>
    b :: match b.enabled c r.level with
      | .error _ => []
      | .ok false => asked c r rest w
      | .ok true =>
        match b.guarded c r w with
        | (.ok (), _) => []
        | (.error e, v) => asked c r rest (v.note (.triedNext b.name e.text))

theorem answers_of_ok {b : Behaviour σ} {c : Context} {l : Level} {e : Bool}
    (h : b.enabled c l = .ok e) : b.Answers c l := by
  intro p same
  rw [h] at same
  cases same

theorem not_answers_of_error {b : Behaviour σ} {c : Context} {l : Level} {p : Payload}
    (h : b.enabled c l = .error p) : ¬ b.Answers c l := fun answers => answers p h

def takes (c : Context) (level : Level) (b : Behaviour σ) : Bool :=
  match b.enabled c level with
  | .ok yes => yes
  | .error _ => false

theorem anyEnabled_answers {c : Context} {l : Level} {ms : List (Behaviour σ)}
    (answers : ∀ b ∈ ms, b.Answers c l) (p : Payload) : anyEnabled c l ms ≠ .error p := by
  induction ms with
  | nil => exact fun same => by cases same
  | cons b rest ih =>
    obtain ⟨first, others⟩ := List.forall_mem_cons.mp answers
    rw [anyEnabled]
    split
    · exact ih others
    · exact first p

theorem Answers.enabled {b : Behaviour σ} {c : Context} {l : Level} (answers : b.Answers c l) :
    b.enabled c l = .ok (b.takes c l) := by
  rw [takes]
  cases h : b.enabled c l with
  | error p => exact absurd h (answers p)
  | ok yes => rfl

theorem offerAll_append {c : Context} {r : Record} {xs : List (Behaviour σ)} {es : List SinkError}
    {w v : World σ} (first : offerAll c r xs w = (.ok es, v)) (ys : List (Behaviour σ)) :
    offerAll c r (xs ++ ys) w =
      match offerAll c r ys v with
      | (.ok fs, u) => (.ok (es ++ fs), u)
      | (.error p, u) => (.error p, u) := by
  induction xs generalizing w es with
  | nil =>
    cases first
    rw [List.nil_append]
    rcases offerAll c r ys v with ⟨_ | fs, u⟩ <;> rfl
  | cons b xs ih =>
    rw [List.cons_append, offerAll]
    rw [offerAll] at first
    split at first
    · cases first
    · exact ih first
    · split at first
      · exact ih first
      · rename_i e u _
        rcases h : offerAll c r xs (u.note (.memberFailed b.name e.text)) with ⟨_ | fs, _⟩ <;>
          rw [h] at first
        · cases first
        · cases first
          rw [ih h]
          rcases offerAll c r ys v with ⟨_ | gs, _⟩ <;> rfl

theorem offerAll_returns_iff (c : Context) (r : Record) (ms : List (Behaviour σ)) (w : World σ) :
    (∀ p, (offerAll c r ms w).1 ≠ .error p) ↔ ∀ b ∈ ms, b.Answers c r.level := by
  induction ms generalizing w with
  | nil => simp [offerAll]
  | cons b rest ih =>
    rw [List.forall_mem_cons]
    cases check : b.enabled c r.level with
    | error p => simp [offerAll, check, not_answers_of_error check]
    | ok e =>
      have answers := answers_of_ok check
      cases e with
      | false => simp only [offerAll, check, ih, answers, true_and]
      | true =>
        rcases h : b.guarded c r w with ⟨_ | _, v⟩
        · rename_i e
          simp only [offerAll, check, h, answers, true_and,
            ← ih (v.note (.memberFailed b.name e.text))]
          rcases offerAll c r rest (v.note (.memberFailed b.name e.text)) with ⟨_ | _, u⟩ <;> simp
        · simp only [offerAll, check, h, ih, answers, true_and]

theorem fanout_returns_iff (ms : List (Behaviour σ)) (c : Context) (r : Record) (w : World σ) :
    ((fanout ms).handle c r w).1.Returns ↔ ∀ b ∈ ms, b.Answers c r.level := by
  rw [← offerAll_returns_iff c r ms w]
  simp only [fanout]
  rcases offerAll c r ms w with ⟨p | es, v⟩
  · simp [Outcome.not_returns_panicked]
  · simp [Outcome.returns_ofResult]

theorem firstSuccess_returns_iff (c : Context) (r : Record) (ms : List (Behaviour σ))
    (last : Option SinkError) (w : World σ) :
    (firstSuccess c r ms last w).1.Returns ↔ ∀ b ∈ asked c r ms w, b.Answers c r.level := by
  induction ms generalizing last w with
  | nil => cases last <;> simp [firstSuccess, asked, Outcome.returns_fine, Outcome.returns_failed]
  | cons b rest ih =>
    rw [asked, List.forall_mem_cons]
    cases check : b.enabled c r.level with
    | error p =>
      simp [firstSuccess, check, not_answers_of_error check, Outcome.not_returns_panicked]
    | ok e =>
      have answers := answers_of_ok check
      cases e with
      | false => simp only [firstSuccess, check, ih, answers, true_and]
      | true =>
        rcases h : b.guarded c r w with ⟨_ | _, v⟩
        · simp only [firstSuccess, check, h, ih, answers, true_and]
        · simp [firstSuccess, check, h, answers, Outcome.returns_fine]

theorem pool_handle (ms : List (Behaviour σ)) (c : Context) (r : Record) (w : World σ) :
    ((pool ms).handle c r w).1 =
      (firstSuccess c r (rotate (w.draw ms.length).1 ms) none (w.draw ms.length).2).1 := by
  cases ms with
  | nil => simp [pool, rotate, firstSuccess]
  | cons b rest => simp [pool]

theorem firstMatch_returns_iff (rs : List (Route σ)) (c : Context) (r : Record) (w : World σ) :
    ((firstMatch rs).handle c r w).1.Returns ↔
      (∀ p, (firstMatching c r rs w).1 ≠ .error p) ∧
      ∀ route, (firstMatching c r rs w).1 = .ok (some route) → route.2.Answers c r.level := by
  simp only [firstMatch]
  rcases firstMatching c r rs w with ⟨p | _ | ⟨g, t⟩, v⟩
  · simp [Outcome.not_returns_panicked]
  · simp [Outcome.returns_fine]
  · cases check : t.enabled c r.level with
    | error p =>
      have silent := not_answers_of_error check
      simp [Outcome.not_returns_panicked, check, silent]
    | ok e =>
      have answers := answers_of_ok check
      cases e <;> simp [check, answers, Outcome.returns_fine, Outcome.returns_ofResult]

theorem routed_returns_iff (g : Guard σ) (b : Behaviour σ) (c : Context) (r : Record)
    (w : World σ) : ((routed g b).handle c r w).1.Returns ↔
      if g.matched then (b.handle c r w).1.Returns
      else match g.isMatch c r w with
        | (.ok true, v) => (b.handle c r v).1.Returns
        | (.ok false, _) => True
        | (.error _, _) => False := by
  by_cases marked : g.matched = true
  · simp only [routed, if_pos marked]
  · rcases h : g.isMatch c r w with ⟨_ | _ | _, v⟩ <;>
      simp [routed, marked, h, Outcome.returns_fine, Outcome.not_returns_panicked]

end Behaviour

/-- The nodes that hand records to members, over whatever members. -/
inductive Composite (σ : Type) where
  | fanout (members : List (Behaviour σ))
  | failover (members : List (Behaviour σ))
  | pool (members : List (Behaviour σ))
  | firstMatch (routes : List (Behaviour.Route σ))

namespace Composite
open Behaviour

def behaviour : Composite σ → Behaviour σ
  | .fanout ms => .fanout ms
  | .failover ms => .failover ms
  | .pool ms => .pool ms
  | .firstMatch rs => .firstMatch rs

def fenced : Composite σ → Composite σ
  | .fanout ms => .fanout (ms.map Behaviour.fenced)
  | .failover ms => .failover (ms.map Behaviour.fenced)
  | .pool ms => .pool (ms.map Behaviour.fenced)
  | .firstMatch rs => .firstMatch (rs.map fun route => (route.1, route.2.fenced))

/-- What the composite runs outside any boundary comes back: the level checks that it asks for, and
the search for a route. -/
def Shielded (c : Context) (r : Record) (w : World σ) : Composite σ → Prop
  | .fanout ms => ∀ b ∈ ms, b.Answers c r.level
  | .failover ms => ∀ b ∈ asked c r ms w, b.Answers c r.level
  | .pool ms =>
    ∀ b ∈ asked c r (rotate (w.draw ms.length).1 ms) (w.draw ms.length).2, b.Answers c r.level
  | .firstMatch rs =>
    (∀ p, (firstMatching c r rs w).1 ≠ .error p) ∧
    ∀ route, (firstMatching c r rs w).1 = .ok (some route) → route.2.Answers c r.level

def ofRoutes (first : Bool) (rs : List (Guard σ × Sink σ)) : Composite σ :=
  if first then .firstMatch (rs.map fun r => (r.1.skipping, r.2.behaviour))
  else .fanout (rs.map fun r => .routed r.1 r.2.behaviour)

theorem returns_iff_shielded (k : Composite σ) (c : Context) (r : Record) (w : World σ) :
    (k.behaviour.handle c r w).1.Returns ↔ k.Shielded c r w := by
  cases k with
  | fanout ms => exact fanout_returns_iff ms c r w
  | failover ms => exact firstSuccess_returns_iff c r ms none w
  | pool ms =>
    rw [behaviour, pool_handle]
    exact firstSuccess_returns_iff c r _ none _
  | firstMatch rs => exact firstMatch_returns_iff rs c r w

theorem handle_fenced (k : Composite σ) (c : Context) (r : Record) (w : World σ) :
    k.fenced.behaviour.handle c r w = k.behaviour.handle c r w := by
  have members : ∀ ms : List (Behaviour σ), ∀ b ∈ ms, Alike c r b.fenced (id b) :=
    fun _ b _ => alike_fenced b c r
  cases k with
  | fanout ms => exact (fanout_alike (members ms) w).trans (by rw [List.map_id]; rfl)
  | failover ms => exact (failover_alike (members ms) w).trans (by rw [List.map_id]; rfl)
  | pool ms => exact (pool_alike (members ms) w).trans (by rw [List.map_id]; rfl)
  | firstMatch rs =>
    have same := @firstMatch_alike σ _ rs c r (fun route => (route.1, route.2.fenced)) id
      (fun _ _ _ => rfl)
      (fun route _ => ⟨alike_fenced route.2 c r, routed_alike route.1 (alike_fenced route.2 c r)⟩) w
    exact same.trans (by rw [List.map_id]; rfl)

/-- What a router is: a composite over its routes, or its only route itself. -/
def routing (first : Bool) (rs : List (Guard σ × Sink σ)) : Behaviour σ :=
  match first, rs with
  | false, [(g, t)] => .routed g t.behaviour
  | _, _ => (ofRoutes first rs).behaviour

theorem behaviour_router (first : Bool) (rs : List (Guard σ × Sink σ)) :
    (Sink.router first rs).behaviour = routing first rs := by
  cases first with
  | true =>
    simp only [Sink.router, Sink.firstMatchOf, routing, ofRoutes, behaviour, Sink.behaviour,
      Sink.routeBehaviours_eq_map, List.map_map, if_true]
    rfl
  | false =>
    rcases rs with _ | ⟨r, _ | ⟨s, rest⟩⟩
    · rfl
    · rfl
    · have many :
          (Sink.flatten ((r :: s :: rest).map fun r => .routed r.1 r.2)).length ≠ 1 := by
        rw [Sink.flatten_routed]
        simp
      simp only [Sink.router, Bool.false_eq_true, if_false, Sink.fanout_many many,
        Sink.flatten_routed, routing, ofRoutes, behaviour, Sink.behaviour, Sink.behaviours_eq_map,
        List.map_map]
      rfl

/-- A composite panics exactly when something panics that it runs outside the boundary. A panic of a
member is always the same as the error that names it, for the members after it too. A router is one
of the composites unless it has a single route and takes every match: then nothing is around it. -/
theorem panics_contained_iff :
    (∀ (k : Composite σ) (c : Context) (r : Record) (w : World σ),
      ((k.behaviour.handle c r w).1.Returns ↔ k.Shielded c r w) ∧
      k.fenced.behaviour.handle c r w = k.behaviour.handle c r w) ∧
    (∀ (first : Bool) (rs : List (Guard σ × Sink σ)),
      (Sink.router first rs).behaviour = routing first rs) ∧
    ∀ (ps : List (Predicate σ)) (t : Sink σ) (c : Context) (r : Record) (w : World σ),
      ((Sink.router false [(.ofPredicates ps, t)]).handle c r w).1.Returns ↔
        match (Guard.ofPredicates ps).isMatch c r w with
        | (.ok true, v) => (t.handle c r v).1.Returns
        | (.ok false, _) => True
        | (.error _, _) => False := by
  refine ⟨fun k c r w => ⟨returns_iff_shielded k c r w, handle_fenced k c r w⟩,
    behaviour_router, fun ps t c r w => ?_⟩
  exact routed_returns_iff (.ofPredicates ps) t.behaviour c r w

/-- Two members are no protection when the first cannot say its level, nor is one route. -/
theorem panics_escape :
    let mute : Leaf Unit := ⟨"a", .empty, .custom (fun _ _ _ => .error (.text "no level"))
      fun _ _ _ s => (.fine, s)⟩
    let loud : Leaf Unit := ⟨"b", .empty, .custom (fun _ _ _ => .ok true)
      fun _ _ _ s => (.panicked (.text "static payload"), s)⟩
    let handle := fun s : Sink Unit =>
      s.handle .background ⟨⟨0, 0⟩, .error, "m", []⟩ (.start () fun _ => 0)
    (handle (Sink.fanout [.leaf mute, .leaf loud])).1 = .panicked (.text "no level") ∧
    (handle (Sink.router false [(.ofPredicates [], .leaf loud)])).1 =
      .panicked (.text "static payload") := ⟨rfl, rfl⟩

end Composite
end LogTree
