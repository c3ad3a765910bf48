import LogTree.Proofs.Search

/-!
Walks that stop early mean what they declare. A visitor is called on the full list of visits up to the
first one that it refuses; a search for pairs counts what is still open, stops with the visit that
meets the last open pair, and decides as if it had seen them all. Main statement: `found_by_walking`.
-/
namespace LogTree
variable {σ α : Type}

/-- One call of a visitor: what it was shown, the state it had, what it said and left. -/
structure Glance (σ : Type) where
  visit : Visit
  before : σ
  goesOn : Bool
  after : σ

def Visitor.noted (visit : Visitor σ) : Visitor (List (Glance σ) × σ) := fun v s =>
  let (goesOn, t) := visit v s.2
  (goesOn, s.1 ++ [⟨v, s.2, goesOn, t⟩], t)

/-- The calls are on these visits, in order, up to the first refusal; the answer is whether there was
none. -/
structure Walked (vs : List Visit) (calls : List (Glance σ)) (answer : Bool) : Prop where
  in_order : calls.map Glance.visit <+: vs
  stops : ∀ g ∈ calls.dropLast, g.goesOn = true
  complete : (∀ g ∈ calls, g.goesOn = true) → calls.map Glance.visit = vs
  answer_iff : answer = true ↔ ∀ g ∈ calls, g.goesOn = true

inductive Fed (visit : Visitor σ) : List Visit → σ → List (Glance σ) → Bool × σ → Prop where
  | done (s : σ) : Fed visit [] s [] (true, s)
  | refused {v : Visit} {s t : σ} (vs : List Visit) : visit v s = (false, t) →
    Fed visit (v :: vs) s [⟨v, s, false, t⟩] (false, t)
  | accepted {v : Visit} {s t : σ} {vs : List Visit} {calls : List (Glance σ)} {answer : Bool × σ} :
    visit v s = (true, t) → Fed visit vs t calls answer →
    Fed visit (v :: vs) s (⟨v, s, true, t⟩ :: calls) answer

theorem feed_noted (visit : Visitor σ) (vs : List Visit) (s : σ) (before : List (Glance σ)) :
    ∃ calls, Fed visit vs s calls (feed visit vs s) ∧
      feed visit.noted vs (before, s) =
        ((feed visit vs s).1, before ++ calls, (feed visit vs s).2) := by
  induction vs generalizing s before with
  | nil => exact ⟨[], .done s, by rw [List.append_nil]; rfl⟩
  | cons v vs ih =>
    simp only [feed, Visitor.noted]
    rcases h : visit v s with ⟨_ | _, t⟩
    · exact ⟨[⟨v, s, false, t⟩], .refused vs h, rfl⟩
    · obtain ⟨calls, fed, run⟩ := ih t (before ++ [⟨v, s, true, t⟩])
      rw [← List.append_cons] at run
      exact ⟨⟨v, s, true, t⟩ :: calls, .accepted h fed, run⟩

namespace Fed
variable {visit : Visitor σ} {vs : List Visit} {s : σ} {calls : List (Glance σ)} {answer : Bool × σ}

theorem walked (fed : Fed visit vs s calls answer) : Walked vs calls answer.1 := by
  induction fed with
  | done s => exact ⟨List.prefix_refl _, by simp, fun _ => rfl, by simp⟩
  | refused vs => exact ⟨⟨vs, rfl⟩, by simp, by simp, by simp⟩
  | @accepted v s t vs calls answer _ _ ih =>
    refine ⟨(List.prefix_cons_inj v).mpr ih.in_order, ?_, ?_, ?_⟩
    · cases calls with
      | nil => simp
      | cons g calls => exact List.forall_mem_cons.mpr ⟨rfl, ih.stops⟩
    · intro all
      exact congrArg (v :: ·) (ih.complete (List.forall_mem_cons.mp all).2)
    · simp [ih.answer_iff]

/-- Before each call the visitor has gone on with all visits before it. -/
theorem split (fed : Fed visit vs s calls answer) {earlier later : List (Glance σ)} {g : Glance σ}
    (parts : calls = earlier ++ g :: later) :
    feed visit (earlier.map Glance.visit) s = (true, g.before) ∧
      visit g.visit g.before = (g.goesOn, g.after) := by
  induction fed generalizing earlier with
  | done s => simp at parts
  | refused vs refuses =>
    obtain ⟨rfl, same⟩ | ⟨_, _, none⟩ := List.cons_eq_append_iff.mp parts
    · cases same
      exact ⟨rfl, refuses⟩
    · simp at none
  | accepted accepts _ ih =>
    obtain ⟨rfl, same⟩ | ⟨rest, rfl, others⟩ := List.cons_eq_append_iff.mp parts
    · cases same
      exact ⟨rfl, accepts⟩
    · obtain ⟨led, here⟩ := ih others
      refine ⟨?_, here⟩
      rw [List.map_cons, feed, accepts]
      exact led

end Fed

namespace Search

def stillOpen (same : α → Value → Bool) (pairs : List (Key × α)) (vs : List Visit) : Nat :=
  pairs.countP fun p => !vs.any fun v => p.1 == v.path && same p.2 v.value

def after (same : α → Value → Bool) (pairs : List (Key × α)) (vs : List Visit) : Search α :=
  ⟨pairs.map fun p => ⟨p.1, p.2, vs.any fun v => p.1 == v.path && same p.2 v.value⟩,
    stillOpen same pairs vs⟩

variable (same : α → Value → Bool) (pairs : List (Key × α))

theorem after_nil : after same pairs [] = ofPairs pairs := by
  simp [after, ofPairs, stillOpen, List.countP_eq_length.mpr]

theorem marked_after (vs : List Visit) (v : Visit) :
    ((after same pairs vs).sought.map fun x => { x with found := x.found || hits same v x }) =
      (after same pairs (vs ++ [v])).sought := by
  simp only [after, List.map_map]
  refine List.map_congr_left fun p _ => ?_
  simp only [Function.comp_apply, hits, List.any_append, List.any_cons, List.any_nil, Bool.or_false]
  cases vs.any fun v => p.1 == v.path && same p.2 v.value <;> rfl

/-- What was open is hit by the visit, or open after it. -/
theorem hits_after (vs : List Visit) (v : Visit) :
    stillOpen same pairs vs =
      (after same pairs vs).sought.countP (hits same v) + stillOpen same pairs (vs ++ [v]) := by
  have counts : ∀ us, (after same pairs us).sought.countP (fun x => !x.found) =
      stillOpen same pairs us := fun us => List.countP_map ..
  rw [← counts vs, countP_open same v, marked_after, counts]

theorem see_after (vs : List Visit) (v : Visit) :
    see same v (after same pairs vs) =
      (decide (0 < stillOpen same pairs (vs ++ [v])), after same pairs (vs ++ [v])) := by
  have left : (after same pairs vs).remaining - (after same pairs vs).sought.countP (hits same v) =
      stillOpen same pairs (vs ++ [v]) :=
    Nat.sub_eq_of_eq_add' (hits_after same pairs vs v)
  simp only [see, left, marked_after]
  rfl

theorem feed_after (vs us : List Visit) {t : Search α}
    (went_on : feed (see same) us (after same pairs vs) = (true, t)) :
    t = after same pairs (vs ++ us) := by
  induction us generalizing vs with
  | nil =>
    cases went_on
    rw [List.append_nil]
  | cons u us ih =>
    rw [feed, see_after] at went_on
    cases more : decide (0 < stillOpen same pairs (vs ++ [u])) with
    | false => rw [more] at went_on; cases went_on
    | true =>
      rw [more] at went_on
      rw [List.append_cons]
      exact ih (vs ++ [u]) went_on

/-- One call of the search among the others: its counter stands at the number of open pairs before and
after, falls by the pairs that the visit hits, and the search goes on while some are open. -/
structure Counted (seen : List Visit) (g : Glance (Search α)) : Prop where
  open_before : g.before.remaining = stillOpen same pairs seen
  enough : g.before.sought.countP (hits same g.visit) ≤ g.before.remaining
  falls : g.after.remaining = g.before.remaining - g.before.sought.countP (hits same g.visit)
  open_after : g.after.remaining = stillOpen same pairs (seen ++ [g.visit])
  goes_on_iff : g.goesOn = true ↔ g.after.remaining ≠ 0

theorem counted {attrs : List Attr} {calls earlier later : List (Glance (Search α))}
    {g : Glance (Search α)} {answer : Bool × Search α}
    (fed : Fed (see same) (visits attrs) (ofPairs pairs) calls answer)
    (parts : calls = earlier ++ g :: later) :
    Counted same pairs (earlier.map Glance.visit) g := by
  obtain ⟨led, here⟩ := fed.split parts
  rw [← after_nil same pairs] at led
  have before := feed_after same pairs [] _ led
  rw [List.nil_append] at before
  rw [before, see_after] at here
  obtain ⟨goes, left⟩ := Prod.mk.inj here
  have hit := hits_after same pairs (earlier.map Glance.visit) g.visit
  have remaining_before : g.before.remaining = stillOpen same pairs (earlier.map Glance.visit) :=
    congrArg Search.remaining before
  have remaining_after :
      g.after.remaining = stillOpen same pairs (earlier.map Glance.visit ++ [g.visit]) :=
    congrArg Search.remaining left.symm
  rw [← before] at hit
  refine ⟨remaining_before, ?_, ?_, remaining_after, ?_⟩
  · omega
  · omega
  · rw [← goes, remaining_after, decide_eq_true_iff, Nat.pos_iff_ne_zero]

theorem allFound_iff (attrs : List Attr) :
    allFound same pairs attrs = true ↔
      ∀ p ∈ pairs, ∃ v ∈ visits attrs, p.1 = v.path ∧ same p.2 v.value = true := by
  simp only [allFound_eq, List.all_eq_true, List.any_eq_true, Bool.and_eq_true, beq_iff_eq]

end Search

/-- Any visitor is called on the visits up to its first refusal, and the walk says whether there was
none. A search for pairs, repeated ones among them, counts those that are open, never takes away more
than there are, and goes on just while some are left; it finds all pairs exactly when each is met
somewhere in the full list, and so do the tests on attributes. -/
theorem found_by_walking (attrs : List Attr) :
    (∀ (visit : Visitor σ) (s : σ), ∃ calls,
      Walked (visits attrs) calls (walk visit attrs s).1 ∧
      walk visit.noted attrs ([], s) =
        ((walk visit attrs s).1, calls, (walk visit attrs s).2)) ∧
    (∀ (same : α → Value → Bool) (pairs : List (Key × α)),
      (Search.allFound same pairs attrs = true ↔
        ∀ p ∈ pairs, ∃ v ∈ visits attrs, p.1 = v.path ∧ same p.2 v.value = true) ∧
      ∀ earlier g later,
        (walk (Visitor.noted (Search.see same)) attrs ([], Search.ofPairs pairs)).2.1 =
          earlier ++ g :: later →
        Search.Counted same pairs (earlier.map Glance.visit) g) ∧
    ∀ (c : Context) (r : Record) (s : σ),
      (∀ pairs, ∃ verdict, (Predicate.attrValues pairs).holds c r s = (.ok verdict, s) ∧
        (verdict = true ↔
          ∀ p ∈ pairs, ∃ v ∈ visits r.attrs, p.1 = v.path ∧ (p.2 == v.value) = true)) ∧
      ∀ pairs, ∃ verdict, (Predicate.attrKinds pairs).holds c r s = (.ok verdict, s) ∧
        (verdict = true ↔ ∀ p ∈ pairs, ∃ v ∈ visits r.attrs, p.1 = v.path ∧ p.2 = v.value.kind) := by
  refine ⟨?_, ?_, ?_⟩
  · intro visit s
    obtain ⟨calls, fed, run⟩ := feed_noted visit (visits attrs) s []
    rw [List.nil_append] at run
    refine ⟨calls, ?_, ?_⟩
    · rw [walk, walkUnder_eq_feed]
      exact fed.walked
    · simp only [walk, walkUnder_eq_feed]
      exact run
  · intro same pairs
    refine ⟨Search.allFound_iff same pairs attrs, fun earlier g later parts => ?_⟩
    obtain ⟨calls, fed, run⟩ := feed_noted (Search.see same) (visits attrs) (.ofPairs pairs) []
    rw [walk, walkUnder_eq_feed] at parts
    have whole := (congrArg (fun x => x.2.1) run).symm.trans parts
    rw [List.nil_append] at whole
    exact Search.counted same pairs fed whole
  · intro c r s
    refine ⟨fun pairs => ⟨_, rfl, Search.allFound_iff _ pairs r.attrs⟩,
      fun pairs => ⟨_, rfl, ?_⟩⟩
    simp only [Search.allFound_iff, beq_iff_eq]

/-- One visit meets two equal pairs, a group's own visit meets none, and what stands after the last
one is not looked at. -/
theorem found_by_walking_twice :
    let attrs : List Attr :=
      [.mk "a" (.bool true), .group "g" [.mk "b" (.bool false), .mk "c" (.bool true)]]
    let pairs : List (Key × ValueKind) := [("a", .bool), ("a", .bool), ("g.b", .bool)]
    let same : ValueKind → Value → Bool := fun k v => k == v.kind
    ∃ first second third : Glance (Search ValueKind),
      (walk (Visitor.noted (Search.see same)) attrs ([], .ofPairs pairs)).2.1 =
        [first, second, third] ∧
      [first, second, third].map (fun g => (g.visit.path, g.before.remaining, g.goesOn)) =
        [("a", 3, true), ("g", 1, true), ("g.b", 1, false)] ∧
      Search.Counted same pairs [] first ∧ Search.Counted same pairs [first.visit] second ∧
      Search.Counted same pairs [first.visit, second.visit] third ∧
      Search.allFound same pairs attrs = true := by
  intro attrs pairs same
  obtain ⟨_, search, _⟩ := found_by_walking (σ := Unit) (α := ValueKind) attrs
  obtain ⟨_, counted⟩ := search same pairs
  have seen : visitsUnder "" attrs = [⟨"a", .bool true⟩,
      ⟨"g", .group [.mk "b" (.bool false), .mk "c" (.bool true)]⟩, ⟨"g.b", .bool false⟩,
      ⟨"g.c", .bool true⟩] := by
    simp [visitsUnder, joinPath, Attr.group, attrs]
  have run : ((walk (Visitor.noted (Search.see same)) attrs ([], .ofPairs pairs)).2.1).map
      (fun g => (g.visit.path, g.before.remaining, g.goesOn)) =
        [("a", 3, true), ("g", 1, true), ("g.b", 1, false)] := by
    rw [walk, walkUnder_eq_feed, seen]
    decide +kernel
  have all : Search.allFound same pairs attrs = true := by
    rw [Search.allFound, walk, walkUnder_eq_feed, seen]
    decide +kernel
  obtain ⟨first, _, calls, _, two⟩ := List.map_eq_cons_iff.mp run
  obtain ⟨second, _, rfl, _, one⟩ := List.map_eq_cons_iff.mp two
  obtain ⟨third, _, rfl, _, none⟩ := List.map_eq_cons_iff.mp one
  cases List.map_eq_nil_iff.mp none
  exact ⟨first, second, third, calls, calls ▸ run, counted [] first [second, third] calls,
    counted [first] second [third] calls, counted [first, second] third [] calls, all⟩

end LogTree
