import LogTree.Proofs.Journal
import LogTree.Proofs.Tree

/-!
A whole tree beside a journal. Its meters and recoveries may write there, all the rest does what it
does without; so what those nodes hand on and give back can be read off the journal of any run. What
the entries have to do with the run is a relation that goes over it. Main statement: `mirrored_watched`.
-/
namespace LogTree
variable {σ ε : Type}

namespace World

/-- Does to a world beside a journal what it does to the world. -/
def beside {α : Type} (f : World σ → α × World σ) (w : World (List ε × σ)) :
    α × World (List ε × σ) :=
  (f w.unnoted).map id (noting · w.state.1)

def enter (w : World (List ε × σ)) (entry : ε) : World (List ε × σ) :=
  { w with state := (w.state.1 ++ [entry], w.state.2) }

end World

def Predicate.beside (p : Predicate σ) : Predicate (List ε × σ) :=
  .custom fun c r s => (p.holds c r s.2).map id (Prod.mk s.1)

def Guard.beside (g : Guard σ) : Guard (List ε × σ) :=
  ⟨g.predicates.map Predicate.beside, g.scope, g.matched⟩

theorem Predicate.allHold_beside (c : Context) (r : Record) (ps : List (Predicate σ))
    (journal : List ε) (s : σ) :
    allHold c r (ps.map beside) (journal, s) = (allHold c r ps s).map id (Prod.mk journal) := by
  induction ps generalizing s with
  | nil => rfl
  | cons p rest ih =>
    have here : (p.beside.holds c r (journal, s) : _ × (List ε × σ)) =
        (p.holds c r s).map id (Prod.mk journal) := rfl
    simp only [List.map_cons, allHold, here]
    rcases p.holds c r s with ⟨_ | _ | _, t⟩
    · rfl
    · rfl
    · exact ih t

theorem Guard.isMatch_beside (g : Guard σ) (c : Context) (r : Record) (w : World σ)
    (journal : List ε) :
    g.beside.isMatch c r (w.noting journal) = (g.isMatch c r w).map id (World.noting · journal) := by
  have tests := Predicate.allHold_beside c (g.scope.view r) g.predicates journal w.state
  unfold isMatch World.runState
  simp only [beside, World.noting, tests]
  rfl

namespace Behaviour

def beside (b : Behaviour σ) : Behaviour (List ε × σ) where
  name := b.name
  enabled := b.enabled
  handle c r := World.beside (b.handle c r)

def entered (entry : Context → Record → Outcome → ε) (b : Behaviour (List ε × σ)) :
    Behaviour (List ε × σ) where
  name := b.name
  enabled := b.enabled
  handle c r w :=
    let (o, v) := b.handle c r w
    (o, v.enter (entry c r o))

end Behaviour

namespace Recovery

/-- The same callback; a custom one writes entries before it runs, one that logs has its event. -/
def beside (entries : Context → Record → SinkError → List ε) : Recovery σ → Recovery (List ε × σ)
  | .logging => .logging
  | .custom report => .custom fun c r e s => (s.1 ++ entries c r e, report c r e s.2)

def written (entries : Context → Record → SinkError → List ε) (c : Context) (r : Record)
    (answer : Except SinkError Unit) : Recovery σ → List ε
  | .logging => []
  | .custom _ =>
    match answer with
    | .ok _ => []
    | .error e => entries c r e

theorem run_beside (x : Recovery σ) (entries : Context → Record → SinkError → List ε) (c : Context)
    (r : Record) (e : SinkError) (w : World σ) (journal : List ε) :
    (x.beside entries).run c r e (w.noting journal) =
      (x.run c r e w).noting (journal ++ x.written entries c r (.error e)) := by
  cases x with
  | logging =>
    rw [written, List.append_nil]
    rfl
  | custom report => rfl

end Recovery

/-- How meters and recoveries run beside a journal; each is told the sink that stands behind it. -/
structure Watch (ε σ : Type) where
  metered : MeterId → Sink σ → Behaviour (List ε × σ) → Behaviour (List ε × σ)
  recovered : Recovery σ → Sink σ → Behaviour (List ε × σ) → Behaviour (List ε × σ)

namespace Sink

mutual

/-- The tree beside a journal. -/
def watched (watch : Watch ε σ) : Sink σ → Behaviour (List ε × σ)
  | .leaf l => l.behaviour.beside
  | .spread ms => .fanout (watchedEach watch ms)
  | .failover ms => .failover (watchedEach watch ms)
  | .pool ms => .pool (watchedEach watch ms)
  | .routed g t => .routed g.beside (watched watch t)
  | .firstMatch rs => .firstMatch (watchedRoutes watch rs)
  | .recovered x s => watch.recovered x s (watched watch s)
  | .metered m s => watch.metered m s (watched watch s)
  | .hooked h s => .hooked h (watched watch s)

def watchedEach (watch : Watch ε σ) : List (Sink σ) → List (Behaviour (List ε × σ))
  | [] => []
  | s :: rest => watched watch s :: watchedEach watch rest

def watchedRoutes (watch : Watch ε σ) :
    List (Guard σ × Sink σ) → List (Behaviour.Route (List ε × σ))
  | [] => []
  | (g, s) :: rest => (g.beside, watched watch s) :: watchedRoutes watch rest

end

theorem watchedEach_eq_map (watch : Watch ε σ) (ms : List (Sink σ)) :
    watchedEach watch ms = ms.map (watched watch) := by
  induction ms with
  | nil => simp [watchedEach]
  | cons s rest ih => simp [watchedEach, ih]

theorem watchedRoutes_eq_map (watch : Watch ε σ) (rs : List (Guard σ × Sink σ)) :
    watchedRoutes watch rs = rs.map fun x => (x.1.beside, x.2.watched watch) := by
  induction rs with
  | nil => simp [watchedRoutes]
  | cons x rest ih =>
    obtain ⟨g, s⟩ := x
    simp [watchedRoutes, ih]

mutual

def meters : Sink σ → List (MeterId × Sink σ)
  | .leaf _ => []
  | .spread ms => metersEach ms
  | .failover ms => metersEach ms
  | .pool ms => metersEach ms
  | .routed _ t => meters t
  | .firstMatch rs => metersTargets rs
  | .recovered _ s => meters s
  | .metered m s => (m, s) :: meters s
  | .hooked _ s => meters s

def metersEach : List (Sink σ) → List (MeterId × Sink σ)
  | [] => []
  | s :: rest => meters s ++ metersEach rest

def metersTargets : List (Guard σ × Sink σ) → List (MeterId × Sink σ)
  | [] => []
  | (_, s) :: rest => meters s ++ metersTargets rest

end

theorem metersEach_eq_flatMap (ms : List (Sink σ)) : metersEach ms = ms.flatMap meters := by
  induction ms with
  | nil => simp [metersEach]
  | cons s rest ih => simp [metersEach, ih]

theorem metersTargets_eq_flatMap (rs : List (Guard σ × Sink σ)) :
    metersTargets rs = rs.flatMap fun x => x.2.meters := by
  induction rs with
  | nil => simp [metersTargets]
  | cons x rest ih =>
    obtain ⟨g, s⟩ := x
    simp [metersTargets, ih]

theorem mem_meters_each {x : MeterId × Sink σ} {s : Sink σ} {ms : List (Sink σ)} (hs : s ∈ ms)
    (hx : x ∈ s.meters) : x ∈ metersEach ms := by
  rw [metersEach_eq_flatMap]
  exact List.mem_flatMap.mpr ⟨s, hs, hx⟩

theorem mem_meters_targets {x : MeterId × Sink σ} {r : Guard σ × Sink σ}
    {rs : List (Guard σ × Sink σ)} (hr : r ∈ rs) (hx : x ∈ r.2.meters) : x ∈ metersTargets rs := by
  rw [metersTargets_eq_flatMap]
  exact List.mem_flatMap.mpr ⟨r, hr, hx⟩

end Sink

/-- What the entries that are added have to do with the world before and after, as far as leaves,
guards and composites are concerned, which add none. -/
structure Account (Q : World σ → World σ → List ε → Prop) : Prop where
  refl : ∀ w, Q w w []
  trans : ∀ {u v w xs ys}, Q u v xs → Q v w ys → Q u w (xs ++ ys)
  note : ∀ w e, Q w (w.note e) []
  draw : ∀ w n, Q w (w.draw n).2 []
  state : ∀ (w : World σ) s, Q w { w with state := s } []
  deliver : ∀ w d, Q w (w.deliver d) []

/-- The second does beside a journal what the first does without it, and the entries fit. -/
def Mirrors {α : Type} (Q : World σ → World σ → List ε → Prop) (f : World σ → α × World σ)
    (g : World (List ε × σ) → α × World (List ε × σ)) : Prop :=
  ∀ w journal, ∃ a v notes, f w = (a, v) ∧
    g (w.noting journal) = (a, v.noting (journal ++ notes)) ∧ Q w v notes

namespace Account
variable {α : Type} {Q : World σ → World σ → List ε → Prop} {w v : World σ} {journal notes : List ε}

/-- Something that adds no entry comes after. -/
theorem after {u : World σ} (account : Account Q) (fits : Q w v notes) (last : Q v u []) :
    Q w u notes := by
  have whole := account.trans fits last
  rwa [List.append_nil] at whole

theorem noted (account : Account Q) (fits : Q w v notes) (e : Event) : Q w (v.note e) notes :=
  account.after fits (account.note v e)

/-- A run goes on where another has left the journal. -/
theorem goOn (account : Account Q) (fits : Q w v notes) {f : World σ → α × World σ}
    {g : World (List ε × σ) → α × World (List ε × σ)} (next : Mirrors Q f g) (journal : List ε) :
    ∃ a u all, f v = (a, u) ∧
      g (v.noting (journal ++ notes)) = (a, u.noting (journal ++ all)) ∧ Q w u all := by
  obtain ⟨a, u, more, plain, ran, fits'⟩ := next v (journal ++ notes)
  rw [List.append_assoc] at ran
  exact ⟨a, u, notes ++ more, plain, ran, account.trans fits fits'⟩

/-- What adds no entry and is the same beside a journal. -/
theorem mirrors_silent {f : World σ → α × World σ} {g : World (List ε × σ) → α × World (List ε × σ)}
    (same : ∀ w journal, g (w.noting journal) = ((f w).1, (f w).2.noting journal))
    (silent : ∀ w, Q w (f w).2 []) : Mirrors Q f g := by
  intro w journal
  refine ⟨(f w).1, (f w).2, [], rfl, ?_, silent w⟩
  rw [same, List.append_nil]

theorem mirrors_pure (account : Account Q) (a : α) :
    Mirrors Q (fun w => (a, w)) (fun w => (a, w)) :=
  mirrors_silent (fun _ _ => rfl) account.refl

theorem mirrors_isMatch (account : Account Q) (g : Guard σ) (c : Context) (r : Record) :
    Mirrors Q (g.isMatch c r) (g.beside.isMatch c r) :=
  mirrors_silent (g.isMatch_beside c r) fun w => account.state w _

end Account

namespace Behaviour

structure Mirrored (Q : World σ → World σ → List ε → Prop) (b : Behaviour σ)
    (t : Behaviour (List ε × σ)) : Prop where
  name : t.name = b.name
  enabled : t.enabled = b.enabled
  handle : ∀ c r, Mirrors Q (b.handle c r) (t.handle c r)

section
variable {Q : World σ → World σ → List ε → Prop} {b : Behaviour σ} {t : Behaviour (List ε × σ)}

theorem Mirrored.guarded (mirrored : Mirrored Q b t) (account : Account Q) (c : Context)
    (r : Record) : Mirrors Q (b.guarded c r) (t.guarded c r) := by
  intro w journal
  obtain ⟨o, v, notes, plain, ran, fits⟩ := mirrored.handle c r w journal
  simp only [guarded_eq_fence, plain, ran, mirrored.name]
  cases o with
  | fine => exact ⟨_, v, notes, rfl, rfl, fits⟩
  | failed e => exact ⟨_, v, notes, rfl, rfl, fits⟩
  | panicked p => exact ⟨_, _, notes, rfl, rfl, account.noted fits _⟩

theorem mirrored_leaf (account : Account Q) (l : Leaf σ) :
    Mirrored Q l.behaviour l.behaviour.beside := by
  constructor
  · rfl
  · rfl
  · intro c r
    apply Account.mirrors_silent
    · exact fun _ _ => rfl
    · intro w
      have delivered := account.deliver w (l.delivery r)
      simp only [Leaf.behaviour, Leaf.react]
      cases l.kind with
      | memory least buffer => exact delivered
      | log least => exact account.noted delivered _
      | custom enabled handle => exact account.after delivered (account.state _ _)

theorem mirrored_routed (account : Account Q) (g : Guard σ) (mirrored : Mirrored Q b t) :
    Mirrored Q (routed g b) (routed g.beside t) := by
  constructor
  · exact mirrored.name
  · exact mirrored.enabled
  · intro c r w journal
    have marked : (g.beside : Guard (List ε × σ)).matched = g.matched := rfl
    simp only [routed, marked, mirrored.name]
    split
    · exact mirrored.handle c r w journal
    · obtain ⟨answer, v, notes, plain, ran, fits⟩ := account.mirrors_isMatch g c r w journal
      simp only [plain, ran]
      rcases answer with p | _ | _
      · exact ⟨_, v, notes, rfl, rfl, fits⟩
      · exact ⟨_, _, notes, rfl, rfl, account.noted fits _⟩
      · exact account.goOn fits (mirrored.handle c r) journal

theorem handle_recovered_beside (x : Recovery σ)
    (entries : Context → Record → SinkError → List ε) {c : Context} {r : Record} {w v : World σ}
    {w' : World (List ε × σ)} {answer : Except SinkError Unit} {journal : List ε}
    (plain : b.guarded c r w = (answer, v)) (ran : t.guarded c r w' = (answer, v.noting journal)) :
    (recovered (x.beside entries) t).handle c r w' =
      ((recovered x b).handle c r w).map id
        (World.noting · (journal ++ x.written entries c r answer)) := by
  simp only [recovered, plain, ran]
  cases answer with
  | ok _ =>
    have nothing : x.written entries c r (.ok ()) = [] := by cases x <;> rfl
    rw [nothing, List.append_nil]
    rfl
  | error e => exact congrArg (Prod.mk _) (x.run_beside entries c r e v journal)

theorem mirrored_recovered (account : Account Q) (mirrored : Mirrored Q b t) (x : Recovery σ) :
    Mirrored Q (recovered x b) (recovered (x.beside fun _ _ _ => []) t) := by
  constructor
  · exact mirrored.name
  · exact mirrored.enabled
  · intro c r w journal
    obtain ⟨answer, v, notes, plain, ran, fits⟩ := mirrored.guarded account c r w journal
    have whole := handle_recovered_beside x (fun _ _ _ => []) plain ran
    have nothing : x.written (fun _ _ _ => ([] : List ε)) c r answer = [] := by
      cases x <;> cases answer <;> rfl
    rw [nothing, List.append_nil] at whole
    refine ⟨_, _, notes, rfl, whole, ?_⟩
    simp only [plain]
    cases answer with
    | ok _ => exact fits
    | error e =>
      cases x with
      | logging => exact account.noted fits _
      | custom report => exact account.after fits (account.state v _)

theorem mirrored_metered (account : Account Q) {m : MeterId} (mirrored : Mirrored Q b t)
    (counts : ∀ w tick, Q w (w.tick m tick) []) : Mirrored Q (metered m b) (metered m t) := by
  constructor
  · exact mirrored.name
  · exact mirrored.enabled
  · intro c r w journal
    simp only [metered, mirrored.enabled]
    rcases b.enabled c r.level with p | _ | _
    · exact account.mirrors_pure (Outcome.panicked p) w journal
    · refine ⟨_, _, [], rfl, ?_, counts w .filtered⟩
      rw [List.append_nil]
      rfl
    · obtain ⟨answer, v, notes, plain, ran, fits⟩ := mirrored.guarded account c r w journal
      simp only [plain, ran]
      cases answer with
      | ok _ => exact ⟨_, _, notes, rfl, rfl, account.after fits (counts v .handled)⟩
      | error e => exact ⟨_, _, notes, rfl, rfl, account.after fits (counts v .failed)⟩

/-- A hook may call what is behind it any number of times. -/
theorem mirrors_plan (account : Account Q) {f : Record → World σ → Outcome × World σ}
    {g : Record → World (List ε × σ) → Outcome × World (List ε × σ)}
    (calls : ∀ r, Mirrors Q (f r) (g r)) (plan : Plan) : Mirrors Q (plan.run f) (plan.run g) := by
  induction plan with
  | answer result => exact account.mirrors_pure (Outcome.ofResult result)
  | pass r next ih =>
    intro w journal
    obtain ⟨o, v, notes, plain, ran, fits⟩ := calls r w journal
    simp only [Plan.run, plain, ran]
    cases o with
    | fine => exact account.goOn fits (ih (.ok ())) journal
    | failed e => exact account.goOn fits (ih (.error e)) journal
    | panicked p => exact ⟨_, v, notes, rfl, rfl, fits⟩

theorem mirrored_hooked (account : Account Q) (h : Hooks) (mirrored : Mirrored Q b t) :
    Mirrored Q (hooked h b) (hooked h t) := by
  constructor
  · exact mirrored.name
  · simp only [hooked, mirrored.enabled]
  · intro c r
    simp only [hooked, mirrored.name]
    cases h.onHandle with
    | none => exact mirrored.handle c r
    | some hook => exact mirrors_plan account (mirrored.handle c) (hook b.name c r)

end

section
variable {α : Type} {Q : World σ → World σ → List ε → Prop} {xs : List α} {f : α → Behaviour σ}
  {g : α → Behaviour (List ε × σ)}

theorem anyEnabled_mirrored (each : ∀ x ∈ xs, Mirrored Q (f x) (g x)) (c : Context) (l : Level) :
    anyEnabled c l (xs.map g) = anyEnabled c l (xs.map f) := by
  induction xs with
  | nil => rfl
  | cons x rest ih =>
    obtain ⟨first, others⟩ := List.forall_mem_cons.mp each
    simp only [List.map_cons, anyEnabled, first.enabled, ih others]

theorem mirrors_offerAll (account : Account Q) (each : ∀ x ∈ xs, Mirrored Q (f x) (g x))
    (c : Context) (r : Record) :
    Mirrors Q (offerAll c r (xs.map f)) (offerAll c r (xs.map g)) := by
  induction xs with
  | nil => exact account.mirrors_pure (Except.ok [])
  | cons x rest ih =>
    obtain ⟨first, others⟩ := List.forall_mem_cons.mp each
    intro w journal
    simp only [List.map_cons, offerAll, first.enabled]
    rcases (f x).enabled c r.level with p | _ | _
    · exact account.mirrors_pure (Except.error p) w journal
    · exact ih others w journal
    · obtain ⟨answer, v, notes, plain, ran, fits⟩ := first.guarded account c r w journal
      simp only [plain, ran, first.name]
      cases answer with
      | ok _ => exact account.goOn fits (ih others) journal
      | error e =>
        let failure := Event.memberFailed (f x).name e.text
        obtain ⟨es, u, all, plain', ran', fits'⟩ :=
          account.goOn (account.noted fits failure) (ih others) journal
        have noted : (v.noting (journal ++ notes)).note failure =
            (v.note failure).noting (journal ++ notes) := rfl
        simp only [failure] at plain' noted ran'
        simp only [noted, plain', ran']
        cases es with
        | ok es => exact ⟨_, u, all, rfl, rfl, fits'⟩
        | error p => exact ⟨_, u, all, rfl, rfl, fits'⟩

theorem mirrored_fanout (account : Account Q) (each : ∀ x ∈ xs, Mirrored Q (f x) (g x)) :
    Mirrored Q (fanout (xs.map f)) (fanout (xs.map g)) := by
  constructor
  · rfl
  · exact funext fun c => funext fun l => anyEnabled_mirrored each c l
  · intro c r w journal
    obtain ⟨es, v, notes, plain, ran, fits⟩ := mirrors_offerAll account each c r w journal
    simp only [fanout, plain, ran]
    cases es with
    | ok es => exact ⟨_, v, notes, rfl, rfl, fits⟩
    | error p => exact ⟨_, v, notes, rfl, rfl, fits⟩

theorem mirrors_firstSuccess (account : Account Q) (each : ∀ x ∈ xs, Mirrored Q (f x) (g x))
    (c : Context) (r : Record) (last : Option SinkError) :
    Mirrors Q (firstSuccess c r (xs.map f) last) (firstSuccess c r (xs.map g) last) := by
  induction xs generalizing last with
  | nil =>
    cases last with
    | none => exact account.mirrors_pure Outcome.fine
    | some e => exact account.mirrors_pure (Outcome.failed e)
  | cons x rest ih =>
    obtain ⟨first, others⟩ := List.forall_mem_cons.mp each
    intro w journal
    simp only [List.map_cons, firstSuccess, first.enabled]
    rcases (f x).enabled c r.level with p | _ | _
    · exact account.mirrors_pure (Outcome.panicked p) w journal
    · exact ih others last w journal
    · obtain ⟨answer, v, notes, plain, ran, fits⟩ := first.guarded account c r w journal
      simp only [plain, ran, first.name]
      cases answer with
      | ok _ => exact ⟨_, v, notes, rfl, rfl, fits⟩
      | error e => exact account.goOn (account.noted fits _) (ih others (some e)) journal

theorem mirrored_failover (account : Account Q) (each : ∀ x ∈ xs, Mirrored Q (f x) (g x)) :
    Mirrored Q (failover (xs.map f)) (failover (xs.map g)) := by
  constructor
  · rfl
  · exact funext fun c => funext fun l => anyEnabled_mirrored each c l
  · exact fun c r => mirrors_firstSuccess account each c r none

theorem mirrored_pool (account : Account Q) (each : ∀ x ∈ xs, Mirrored Q (f x) (g x)) :
    Mirrored Q (pool (xs.map f)) (pool (xs.map g)) := by
  constructor
  · rfl
  · exact funext fun c => funext fun l => anyEnabled_mirrored each c l
  · intro c r w journal
    simp only [pool, List.isEmpty_map, List.length_map]
    split
    · exact account.mirrors_pure Outcome.fine w journal
    · have drawn : Q w (w.draw xs.length).2 [] := account.draw w xs.length
      have members : ∀ x ∈ rotate (w.draw xs.length).1 xs, Mirrored Q (f x) (g x) :=
        fun x hx => each x (mem_rotate.mp hx)
      have next := account.goOn drawn (mirrors_firstSuccess account members c r none) journal
      rw [List.append_nil] at next
      simp only [World.draw_noting, rotate_map] at next ⊢
      exact next

end

section
variable {α : Type} {Q : World σ → World σ → List ε → Prop}

/-- The search ends at the same route. -/
theorem firstMatching_beside (account : Account Q) (guard : α → Guard σ) (xs : List α)
    (f : α → Behaviour σ) (g : α → Behaviour (List ε × σ)) (c : Context) (r : Record)
    (w : World σ) (journal : List ε) :
    ∃ (found : Except Payload (Option α)) (v : World σ) (notes : List ε),
      firstMatching c r (xs.map fun x => (guard x, f x)) w =
        (found.map (Option.map fun x => (guard x, f x)), v) ∧
      firstMatching c r (xs.map fun x => ((guard x).beside, g x)) (w.noting journal) =
        (found.map (Option.map fun x => ((guard x).beside, g x)), v.noting (journal ++ notes)) ∧
      (∀ x, found = .ok (some x) → x ∈ xs) ∧ Q w v notes := by
  induction xs generalizing w journal with
  | nil =>
    refine ⟨.ok none, w, [], rfl, ?_, fun _ same => (by cases same), account.refl w⟩
    rw [List.append_nil]
    rfl
  | cons x rest ih =>
    obtain ⟨answer, v, notes, plain, ran, fits⟩ :=
      account.mirrors_isMatch (guard x) c r w journal
    simp only [List.map_cons, firstMatching, plain, ran]
    rcases answer with p | _ | _
    · exact ⟨.error p, v, notes, rfl, rfl, fun _ same => (by cases same), fits⟩
    · obtain ⟨found, u, more, plain', ran', member, fits'⟩ := ih v (journal ++ notes)
      rw [List.append_assoc] at ran'
      refine ⟨found, u, notes ++ more, plain', ran', fun x same => ?_, account.trans fits fits'⟩
      exact List.mem_cons_of_mem _ (member x same)
    · refine ⟨.ok (some x), v, notes, rfl, rfl, fun y same => ?_, fits⟩
      cases same
      exact List.mem_cons_self

theorem mirrored_firstMatch (account : Account Q) (guard : α → Guard σ) {xs : List α}
    {f : α → Behaviour σ} {g : α → Behaviour (List ε × σ)}
    (each : ∀ x ∈ xs, Mirrored Q (f x) (g x)) :
    Mirrored Q (firstMatch (xs.map fun x => (guard x, f x)))
      (firstMatch (xs.map fun x => ((guard x).beside, g x))) := by
  have routes : ∀ x ∈ xs, Mirrored Q (routed (guard x) (f x)) (routed (guard x).beside (g x)) :=
    fun x hx => mirrored_routed account (guard x) (each x hx)
  constructor
  · rfl
  · funext c l
    simp only [firstMatch, List.map_map]
    exact anyEnabled_mirrored routes c l
  · intro c r w journal
    obtain ⟨found, v, notes, plain, ran, member, fits⟩ :=
      firstMatching_beside account guard xs f g c r w journal
    simp only [firstMatch, plain, ran]
    rcases found with p | _ | x
    · exact ⟨_, v, notes, rfl, rfl, fits⟩
    · exact ⟨_, _, notes, rfl, rfl, account.noted fits _⟩
    · have here := each x (member x rfl)
      simp only [Except.map, Option.map_some, here.enabled, here.name]
      rcases (f x).enabled c r.level with p | _ | _
      · exact ⟨_, v, notes, rfl, rfl, fits⟩
      · exact ⟨_, _, notes, rfl, rfl, account.noted fits _⟩
      · obtain ⟨answer, u, all, plain', ran', fits'⟩ :=
          account.goOn fits ((routes x (member x rfl)).guarded account c r) journal
        simp only [plain', ran']
        exact ⟨.ofResult answer, u, all, rfl, rfl, fits'⟩

end
end Behaviour

/-- The relation holds of a meter as soon as it holds of what stands behind it. -/
def Watch.Counts (watch : Watch ε σ) (Q : World σ → World σ → List ε → Prop) (m : MeterId)
    (next : Sink σ) : Prop :=
  Behaviour.Mirrored Q next.behaviour (next.watched watch) →
    Behaviour.Mirrored Q (.metered m next.behaviour) (watch.metered m next (next.watched watch))

def Watch.Reports (watch : Watch ε σ) (Q : World σ → World σ → List ε → Prop) (x : Recovery σ)
    (next : Sink σ) : Prop :=
  Behaviour.Mirrored Q next.behaviour (next.watched watch) →
    Behaviour.Mirrored Q (.recovered x next.behaviour) (watch.recovered x next (next.watched watch))

namespace Sink

theorem mirrored_watched {Q : World σ → World σ → List ε → Prop} (account : Account Q)
    {watch : Watch ε σ} (reports : ∀ x next, watch.Reports Q x next) (s : Sink σ)
    (counts : ∀ x ∈ s.meters, watch.Counts Q x.1 x.2) :
    Behaviour.Mirrored Q s.behaviour (s.watched watch) := by
  induction s using induction with
  | leaf l => exact Behaviour.mirrored_leaf account l
  | spread ms ih =>
    rw [behaviour, watched, behaviours_eq_map, watchedEach_eq_map]
    apply Behaviour.mirrored_fanout account
    exact fun s hs => ih s hs fun x hx => counts x (mem_meters_each hs hx)
  | failover ms ih =>
    rw [behaviour, watched, behaviours_eq_map, watchedEach_eq_map]
    apply Behaviour.mirrored_failover account
    exact fun s hs => ih s hs fun x hx => counts x (mem_meters_each hs hx)
  | pool ms ih =>
    rw [behaviour, watched, behaviours_eq_map, watchedEach_eq_map]
    apply Behaviour.mirrored_pool account
    exact fun s hs => ih s hs fun x hx => counts x (mem_meters_each hs hx)
  | routed g t ih => exact Behaviour.mirrored_routed account g (ih counts)
  | firstMatch rs ih =>
    rw [behaviour, watched, routeBehaviours_eq_map, watchedRoutes_eq_map]
    apply Behaviour.mirrored_firstMatch account Prod.fst
    exact fun r hr => ih r hr fun x hx => counts x (mem_meters_targets hr hx)
  | recovered x s ih => exact reports x s (ih counts)
  | metered m s ih =>
    obtain ⟨here, below⟩ := List.forall_mem_cons.mp counts
    exact here (ih below)
  | hooked h s ih => exact Behaviour.mirrored_hooked account h (ih counts)

end Sink
end LogTree
