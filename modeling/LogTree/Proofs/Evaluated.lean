import LogTree.Proofs.Journal
import LogTree.Proofs.Widening
import LogTree.Proofs.Wrapped
import Mathlib.Data.List.Nodup

/-!
What a first-match node asks and whom it serves. Its routes stay marked through every derivation, so a
guard decides in the search and is not asked again at the delivery. The tests may do anything with the
state, but they answer. Main statement: `evaluated_once`.
-/
namespace LogTree
variable {σ ε : Type}

/-- One call of a predicate: its route and its place there, what it was shown and what it said. -/
structure Test where
  route : Nat
  predicate : Nat
  context : Context
  view : Record
  answer : Except Payload Bool

def Test.place (t : Test) : Nat × Nat := (t.route, t.predicate)

def testsOf (route first : Nat) (c : Context) (view : Record) (hits : List Bool) : List Test :=
  (hits.zipIdx first).map fun x => ⟨route, x.2, c, view, .ok x.1⟩

/-- What `n` predicates in a row say: all of them hold, or the last one asked does not. -/
def Said (n : Nat) (hits : List Bool) : Bool → Prop
  | true => hits = List.replicate n true
  | false => ∃ k < n, hits = List.replicate k true ++ [false]

theorem Said.cons {n : Nat} {hits : List Bool} {verdict : Bool} (said : Said n hits verdict) :
    Said (n + 1) (true :: hits) verdict := by
  cases verdict with
  | true => exact congrArg (true :: ·) said
  | false =>
    obtain ⟨k, below, hits_eq⟩ := said
    exact ⟨k + 1, Nat.succ_lt_succ below, congrArg (true :: ·) hits_eq⟩

theorem places_testsOf (route first : Nat) (c : Context) (view : Record) (hits : List Bool) :
    (testsOf route first c view hits).map Test.place =
      (List.range' first hits.length).map (Prod.mk route) := by
  rw [testsOf, List.map_map, ← List.zipIdx_map_snd first hits, List.map_map]
  rfl

def Predicate.noted (entry : Test → ε) (route place : Nat) (p : Predicate σ) :
    Predicate (List ε × σ) :=
  .custom fun c r s =>
    let (answer, t) := p.holds c r s.2
    (answer, s.1 ++ [entry ⟨route, place, c, r, answer⟩], t)

def Guard.noted (entry : Test → ε) (route : Nat) (g : Guard σ) : Guard (List ε × σ) :=
  ⟨g.predicates.zipIdx.map fun x => x.1.noted entry route x.2, g.scope, g.matched⟩

/-- In one journal: a predicate was asked, or a sink was handed a record. -/
inductive Entry where
  | test (t : Test)
  | delivery (a : Attempt)

section
variable (entry : Test → ε) (route : Nat) (c : Context) (r : Record)

theorem Predicate.allHold_noted {ps : List (Predicate σ)} (answers : ∀ p ∈ ps, p.Returns)
    (first : Nat) (s : σ) (before : List ε) :
    ∃ verdict hits t, Said ps.length hits verdict ∧ allHold c r ps s = (.ok verdict, t) ∧
      allHold c r ((ps.zipIdx first).map fun x => x.1.noted entry route x.2) (before, s) =
        (.ok verdict, before ++ (testsOf route first c r hits).map entry, t) := by
  induction ps generalizing first s before with
  | nil => exact ⟨true, [], s, rfl, rfl, by simp [allHold, testsOf]⟩
  | cons p rest ih =>
    obtain ⟨here, later⟩ := List.forall_mem_cons.mp answers
    have noted : (p.noted entry route first).holds c r (before, s) =
        ((p.holds c r s).1, before ++ [entry ⟨route, first, c, r, (p.holds c r s).1⟩],
          (p.holds c r s).2) := rfl
    rcases h : p.holds c r s with ⟨q | hit, t⟩
    · exact absurd (congrArg Prod.fst h) (here c r s q)
    · simp only [List.zipIdx_cons, List.map_cons, allHold, noted, h]
      cases hit with
      | false => exact ⟨false, [false], t, ⟨0, Nat.succ_pos _, rfl⟩, rfl, rfl⟩
      | true =>
        obtain ⟨verdict, hits, u, said, plain, run⟩ :=
          ih later (first + 1) t (before ++ [entry ⟨route, first, c, r, .ok true⟩])
        rw [← List.append_cons] at run
        exact ⟨verdict, true :: hits, u, said.cons, plain, run⟩

theorem Guard.isMatch_noted {g : Guard σ} (answers : ∀ p ∈ g.predicates, p.Returns) (w : World σ)
    (before : List ε) :
    ∃ verdict hits v, Said g.predicates.length hits verdict ∧ g.isMatch c r w = (.ok verdict, v) ∧
      (g.noted entry route).isMatch c r (w.noting before) =
        (.ok verdict, v.noting
          (before ++ (testsOf route 0 c (g.scope.view r) hits).map entry)) := by
  obtain ⟨verdict, hits, t, said, plain, run⟩ :=
    Predicate.allHold_noted entry route c (g.scope.view r) answers 0 w.state before
  refine ⟨verdict, hits, { w with state := t }, said, ?_, ?_⟩
  · simp only [isMatch, World.runState, plain]
  · simp only [isMatch, World.runState, World.noting, noted, run]

end

namespace Behaviour

def notedRoute (x : Route σ × Nat) : Route (List Entry × σ) :=
  (x.1.1.noted .test x.2, x.1.2.noted .delivery x.2)

def notedRoutes (routes : List (Route σ)) : List (Route (List Entry × σ)) :=
  routes.zipIdx.map notedRoute

section
variable (c : Context) (r : Record)

/-- A search through routes that stand in a row: each has its predicates asked on its own view of the
record, in order and up to the first that does not hold, and it ends at the first route where all do. -/
inductive Searched : Nat → List (Route σ) → List Test → Option Nat → Prop where
  | ended (i : Nat) : Searched i [] [] none
  | passed {i k : Nat} {g : Guard σ} {b : Behaviour σ} {rest : List (Route σ)} {tests : List Test}
      {winner : Option Nat} : k < g.predicates.length → Searched (i + 1) rest tests winner →
      Searched i ((g, b) :: rest)
        (testsOf i 0 c (g.scope.view r) (List.replicate k true ++ [false]) ++ tests) winner
  | won (i : Nat) (g : Guard σ) (b : Behaviour σ) (rest : List (Route σ)) :
      Searched i ((g, b) :: rest)
        (testsOf i 0 c (g.scope.view r) (List.replicate g.predicates.length true)) (some i)

/-- What becomes of the record: it goes to the target of the winner, as it came, or to nobody. -/
inductive Delivered (routes : List (Route σ)) : Option Nat → List Attempt → Outcome → Prop where
  | nobody : Delivered routes none [] .fine
  | disabled {i : Nat} {g : Guard σ} {b : Behaviour σ} : routes[i]? = some (g, b) →
      b.enabled c r.level = .ok false → Delivered routes (some i) [] .fine
  | silent {i : Nat} {g : Guard σ} {b : Behaviour σ} {p : Payload} : routes[i]? = some (g, b) →
      b.enabled c r.level = .error p → Delivered routes (some i) [] (.panicked p)
  | handed {g : Guard σ} {b : Behaviour σ} {a : Attempt} : routes[a.place]? = some (g, b) →
      b.enabled c r.level = .ok true → a.context = c → a.record = r →
      Delivered routes (some a.place) [a] (.ofResult a.answer)

end

section
variable {c : Context} {r : Record} {routes : List (Route σ)}

theorem Searched.nodup {i : Nat} {tests : List Test} {winner : Option Nat}
    (searched : Searched c r i routes tests winner) :
    (∀ t ∈ tests, i ≤ t.route) ∧ (tests.map Test.place).Nodup := by
  have own : ∀ (i : Nat) (view : Record) (hits : List Bool),
      (∀ t ∈ testsOf i 0 c view hits, t.route = i) ∧
        ((testsOf i 0 c view hits).map Test.place).Nodup := by
    intro i view hits
    refine ⟨?_, ?_⟩
    · exact List.forall_mem_map.mpr fun _ _ => rfl
    · rw [places_testsOf]
      exact List.Nodup.map (fun _ _ same => (Prod.mk.inj same).2) List.nodup_range'
  induction searched with
  | ended i => exact ⟨fun _ member => absurd member List.not_mem_nil, List.nodup_nil⟩
  | @passed i k g _ _ tests _ _ _ ih =>
    obtain ⟨beyond, nodup⟩ := ih
    obtain ⟨here, once⟩ := own i (g.scope.view r) (List.replicate k true ++ [false])
    refine ⟨List.forall_mem_append.mpr ⟨fun t member => Nat.le_of_eq (here t member).symm,
      fun t member => Nat.le_of_succ_le (beyond t member)⟩, ?_⟩
    rw [List.map_append]
    refine once.append nodup ?_
    intro p first later
    obtain ⟨t, member, rfl⟩ := List.mem_map.mp first
    obtain ⟨u, member', same⟩ := List.mem_map.mp later
    have route : u.route = t.route := congrArg Prod.fst same
    have := beyond u member'
    have := here t member
    omega
  | won i g =>
    obtain ⟨here, once⟩ := own i (g.scope.view r) (List.replicate g.predicates.length true)
    exact ⟨fun t member => Nat.le_of_eq (here t member).symm, once⟩

theorem firstMatching_noted (answers : ∀ x ∈ routes, ∀ p ∈ x.1.predicates, p.Returns) (i : Nat)
    (w : World σ) (before : List Entry) :
    ∃ tests v, ∃ found : Option (Route σ × Nat), Searched c r i routes tests (found.map Prod.snd) ∧
      (∀ x ∈ found, x ∈ routes.zipIdx i) ∧
      firstMatching c r routes w = (.ok (found.map Prod.fst), v) ∧
      firstMatching c r ((routes.zipIdx i).map notedRoute) (w.noting before) =
        (.ok (found.map notedRoute), v.noting (before ++ tests.map .test)) := by
  induction routes generalizing i w before with
  | nil =>
    refine ⟨[], w, none, .ended i, fun _ member => (nomatch member), rfl, ?_⟩
    rw [List.map_nil, List.append_nil]
    rfl
  | cons x rest ih =>
    obtain ⟨g, b⟩ := x
    obtain ⟨here, later⟩ := List.forall_mem_cons.mp answers
    obtain ⟨verdict, hits, v, said, plain, run⟩ :=
      Guard.isMatch_noted Entry.test i c r here w before
    simp only [List.zipIdx_cons, List.map_cons, firstMatching, notedRoute, plain, run]
    cases verdict with
    | true =>
      cases said
      refine ⟨_, v, some ((g, b), i), .won i g b rest, ?_, rfl, rfl⟩
      exact fun x member => Option.mem_some.mp member ▸ List.mem_cons_self
    | false =>
      obtain ⟨k, below, rfl⟩ := said
      obtain ⟨tests, u, found, searched, place, same, others⟩ :=
        ih later (i + 1) v
          (before ++ (testsOf i 0 c (g.scope.view r) (List.replicate k true ++ [false])).map .test)
      rw [List.append_assoc, ← List.map_append] at others
      exact ⟨_, u, found, .passed below searched,
        fun x member => List.mem_cons_of_mem _ (place x member), same, others⟩

theorem firstMatch_noted (answers : ∀ x ∈ routes, ∀ p ∈ x.1.predicates, p.Returns)
    (marked : ∀ x ∈ routes, x.1.matched = true) (w : World σ) :
    ∃ tests winner calls, Searched c r 0 routes tests winner ∧
      Delivered c r routes winner calls ((firstMatch routes).handle c r w).1 ∧
      (firstMatch (notedRoutes routes)).handle c r (w.noting []) =
        ((firstMatch routes).handle c r w).map id
          (World.noting · (tests.map .test ++ calls.map .delivery)) := by
  obtain ⟨tests, v, found, searched, place, plain, run⟩ :=
    firstMatching_noted (c := c) (r := r) answers 0 w []
  rw [List.nil_append] at run
  cases found with
  | none =>
    refine ⟨tests, none, [], searched, ?_, ?_⟩
    · simp only [firstMatch, plain, Option.map_none]
      exact .nobody
    · simp only [firstMatch, notedRoutes, plain, run, Option.map_none, List.map_nil,
        List.append_nil]
      rfl
  | some x =>
    obtain ⟨⟨g, b⟩, i⟩ := x
    have here : routes[i]? = some (g, b) := List.mem_zipIdx_iff_getElem?.mp (place _ rfl)
    have checked : g.matched = true := marked (g, b) (List.mem_of_getElem? here)
    have checked_noted : (g.noted Entry.test i).matched = true := checked
    have enabled_noted : (b.noted Entry.delivery i).enabled c r.level = b.enabled c r.level := rfl
    simp only [firstMatch, notedRoutes, plain, run, Option.map_some, notedRoute, enabled_noted]
    cases on : b.enabled c r.level with
    | error p =>
      refine ⟨tests, some i, [], searched, .silent here on, ?_⟩
      simp only [List.map_nil, List.append_nil]
      rfl
    | ok yes =>
      cases yes with
      | false =>
        refine ⟨tests, some i, [], searched, .disabled here on, ?_⟩
        simp only [List.map_nil, List.append_nil]
        rfl
      | true =>
        have answer := b.answer_attempt i c r v
        refine ⟨tests, some i, [b.attempt i c r v], searched, ?_, ?_⟩
        · rw [guarded_routed, if_pos checked, ← answer]
          exact Delivered.handed (a := b.attempt i c r v) here on rfl rfl
        · simp only [guarded_routed, checked, checked_noted, if_true, guarded_noted, Prod.map]
          rfl

end
end Behaviour

namespace Sink

def derivedRoutes (rs : List (Guard σ × Sink σ)) (ds : List Derivation) :
    List (Guard σ × Sink σ) :=
  rs.map fun x => ((x.1.rescope fun s => ds.foldl Scope.derive s).skipping, ds.foldl derive x.2)

theorem derived_firstMatchOf (rs : List (Guard σ × Sink σ)) (ds : List Derivation) :
    ds.foldl derive (firstMatchOf rs) = .firstMatch (derivedRoutes rs ds) := by
  have derived := foldl_derive_router true rs ds
  simp only [Guard.derived_eq_rescope] at derived
  refine derived.trans ?_
  simp only [router, if_true, firstMatchOf, List.map_map, derivedRoutes]
  rfl

/-- However a first-match node is derived, it asks in the order of its routes and of their predicates,
on what each route sees, and nothing twice. The first route where all predicates hold decides: its
target has the record as it came if it takes the level, and no other target has it at all. -/
theorem evaluated_once {rs : List (Guard σ × Sink σ)}
    (answers : ∀ x ∈ rs, ∀ p ∈ x.1.predicates, p.Returns) (ds : List Derivation) (c : Context)
    (r : Record) (w : World σ) :
    ds.foldl derive (firstMatchOf rs) = .firstMatch (derivedRoutes rs ds) ∧
    (∀ x ∈ derivedRoutes rs ds, x.1.matched = true) ∧
    ∃ tests winner calls,
      Behaviour.Searched c r 0 (routeBehaviours (derivedRoutes rs ds)) tests winner ∧
      (tests.map Test.place).Nodup ∧
      Behaviour.Delivered c r (routeBehaviours (derivedRoutes rs ds)) winner calls
        ((ds.foldl derive (firstMatchOf rs)).handle c r w).1 ∧
      (Behaviour.firstMatch
          (Behaviour.notedRoutes (routeBehaviours (derivedRoutes rs ds)))).handle c r (w.noting []) =
        ((ds.foldl derive (firstMatchOf rs)).handle c r w).map id
          (World.noting · (tests.map .test ++ calls.map .delivery)) := by
  have marked : ∀ x ∈ derivedRoutes rs ds, x.1.matched = true :=
    List.forall_mem_map.mpr fun _ _ => rfl
  have routes : ∀ P : Guard σ → Prop, (∀ x ∈ derivedRoutes rs ds, P x.1) →
      ∀ x ∈ routeBehaviours (derivedRoutes rs ds), P x.1 := by
    intro P each
    rw [routeBehaviours_eq_map]
    exact List.forall_mem_map.mpr each
  have answers_derived : ∀ x ∈ derivedRoutes rs ds, ∀ p ∈ x.1.predicates, p.Returns :=
    List.forall_mem_map.mpr answers
  obtain ⟨tests, winner, calls, searched, delivered, run⟩ :=
    Behaviour.firstMatch_noted (c := c) (r := r)
      (routes (fun g => ∀ p ∈ g.predicates, p.Returns) answers_derived)
      (routes (fun g => g.matched = true) marked) w
  refine ⟨derived_firstMatchOf rs ds, marked, tests, winner, calls, searched, searched.nodup.2, ?_⟩
  rw [derived_firstMatchOf]
  exact ⟨delivered, run⟩

/-- The second route wins by what was bound on the way; its target has the record without it. -/
theorem evaluated_once_bound :
    let leaf : String → Sink Nat := fun name => .leaf ⟨name, .empty, .memory .info 0⟩
    let asks : Predicate Nat := .custom fun _ view n => (.ok (1 < view.attrs.length), n + 1)
    let rs : List (Guard Nat × Sink Nat) := [(.ofPredicates [.level [.error] false, asks], leaf "a"),
      (.ofPredicates [asks], leaf "b"), (.ofPredicates [asks], leaf "c")]
    let scope : Attr := .mk "scope" (.string "db")
    let own : Attr := .mk "n" (.bool true)
    let ds : List Derivation := [.attrs [scope], .group "req"]
    let r : Record := ⟨⟨0, 0⟩, .info, "m", [own]⟩
    let view : Record := ⟨⟨0, 0⟩, .info, "m", [scope, .group "req" [own]]⟩
    let c : Context := .background
    let w : World Nat := .start 0 fun _ => 0
    (∀ x ∈ rs, ∀ p ∈ x.1.predicates, p.Returns) ∧
      ((ds.foldl derive (firstMatchOf rs)).handle c r w).2.state = 1 ∧
      ∃ (tests : List Test) (winner : Option Nat) (calls : List Attempt),
        Behaviour.Searched c r 0 (routeBehaviours (derivedRoutes rs ds)) tests winner ∧
        tests.map Entry.test ++ calls.map Entry.delivery =
          [.test ⟨0, 0, c, view, .ok false⟩, .test ⟨1, 0, c, view, .ok true⟩,
            .delivery ⟨1, "b", c, r, .fine⟩] := by
  intro leaf asks rs scope own ds r view c w
  have counts : asks.Returns := fun _ _ _ _ same => by cases same
  have levels : (Predicate.level [.error] false : Predicate Nat).Returns :=
    fun _ _ _ _ same => by cases same
  have answers : ∀ x ∈ rs, ∀ p ∈ x.1.predicates, p.Returns := by
    simp [rs, Guard.ofPredicates, counts, levels]
  obtain ⟨_, _, tests, winner, calls, searched, _, _, run⟩ := evaluated_once answers ds c r w
  refine ⟨answers, rfl, tests, winner, calls, searched, ?_⟩
  have journal := congrArg (fun x => x.2.state.1) run
  exact journal.symm.trans rfl

end Sink
end LogTree
