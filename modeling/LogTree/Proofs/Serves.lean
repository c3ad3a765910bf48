import LogTree.Proofs.Boundary
import LogTree.Proofs.Meaning

/-!
Nodes over members that never fail. Where each member is enabled as told and brings a record where a
`Reach` says, so does a fan-out, a failover, a pool, a guard or a first-match node over them. A fan-out
takes the members of its members as its own, so it is stated over trees and not over behaviours.
-/
namespace LogTree
open Config
variable {σ : Type}

def World.Follows (deliver : String → Delivery) (reach : Reach) (w v : World σ) : Prop :=
  w.Adds ((reach w.starts).1.map deliver) (reach w.starts).2 v

theorem World.Adds.follows_nowhere {deliver : String → Delivery} {w v : World σ}
    (adds : w.Adds [] w.starts v) : w.Follows deliver .nowhere v := adds

theorem World.Follows.trans {deliver : String → Delivery} {first : Reach} {rest : List Reach}
    {u v w : World σ} (here : u.Follows deliver first v) (there : v.Follows deliver (.all rest) w) :
    u.Follows deliver (.all (first :: rest)) w := by
  have starts : (first u.starts).2 = v.starts := here.starts.symm
  simp only [Follows, Reach.all, List.map_append, starts]
  exact World.Adds.trans here there

namespace Behaviour

/-- On one record a sink is enabled as told, and then brings the record where `reach` says. -/
structure Serves (deliver : String → Delivery) (c : Context) (r : Record) (accepts : Bool)
    (reach : Reach) (b : Behaviour σ) : Prop where
  enabled : b.enabled c r.level = .ok accepts
  handle : accepts = true → ∀ w, ∃ v, b.handle c r w = (.fine, v) ∧ w.Follows deliver reach v
  silent : accepts = false → reach = .nowhere

/-- The members together bring the record where `reach` says. -/
def Offered (deliver : String → Delivery) (c : Context) (r : Record) (reach : Reach)
    (ms : List (Behaviour σ)) : Prop :=
  ∀ w, ∃ v, offerAll c r ms w = (.ok [], v) ∧ w.Follows deliver reach v

section
variable {deliver : String → Delivery} {c : Context} {r : Record}

theorem Serves.guarded {accepts : Bool} {reach : Reach} {b : Behaviour σ}
    (serves : Serves deliver c r accepts reach b) (yes : accepts = true) (w : World σ) :
    ∃ v, b.guarded c r w = (.ok (), v) ∧ w.Follows deliver reach v := by
  obtain ⟨v, fine, follows⟩ := serves.handle yes w
  exact ⟨v, by rw [guarded_eq_fence, fine, fence], follows⟩

theorem offered_nil : Offered deliver c r (.all []) ([] : List (Behaviour σ)) :=
  fun w => ⟨w, rfl, w.adds_nothing.follows_nowhere⟩

theorem Offered.append {first : Reach} {rest : List Reach} {xs ys : List (Behaviour σ)}
    (here : Offered deliver c r first xs) (there : Offered deliver c r (.all rest) ys) :
    Offered deliver c r (.all (first :: rest)) (xs ++ ys) := by
  intro u
  obtain ⟨v, fine, follows⟩ := here u
  obtain ⟨w, fine', follows'⟩ := there v
  refine ⟨w, ?_, follows.trans follows'⟩
  rw [offerAll_append fine, fine']
  rfl

theorem Serves.offered {accepts : Bool} {reach : Reach} {b : Behaviour σ}
    (serves : Serves deliver c r accepts reach b) : Offered deliver c r reach [b] := by
  intro w
  cases accepts with
  | false =>
    rw [serves.silent rfl]
    exact ⟨w, by simp only [offerAll, serves.enabled], w.adds_nothing.follows_nowhere⟩
  | true =>
    obtain ⟨v, fine, follows⟩ := serves.guarded rfl w
    exact ⟨v, by simp only [offerAll, serves.enabled, fine], follows⟩

theorem Offered.single {reach : Reach} {b : Behaviour σ} (offered : Offered deliver c r reach [b])
    (enabled : b.enabled c r.level = .ok true) (w : World σ) :
    ∃ v, b.handle c r w = (.fine, v) ∧ w.Follows deliver reach v := by
  obtain ⟨v, fine, follows⟩ := offered w
  refine ⟨v, ?_, follows⟩
  simp only [offerAll, enabled, guarded_eq_fence] at fine
  rcases h : b.handle c r w with ⟨_ | _ | _, u⟩ <;> simp [h, fence] at fine
  rw [fine]

theorem anyEnabled_append (l : Level) (xs ys : List (Behaviour σ)) :
    anyEnabled c l (xs ++ ys) =
      match anyEnabled c l xs with
      | .ok false => anyEnabled c l ys
      | other => other := by
  induction xs with
  | nil => rfl
  | cons b xs ih =>
    simp only [List.cons_append, anyEnabled, ih]
    rcases b.enabled c l with _ | _ | _ <;> rfl

theorem anyEnabled_single (l : Level) (b : Behaviour σ) : anyEnabled c l [b] = b.enabled c l := by
  rw [anyEnabled]
  rcases h : b.enabled c l with _ | _ | _ <;> rfl

theorem offered_of_silent {l : List (Behaviour σ)} (off : anyEnabled c r.level l = .ok false)
    (w : World σ) : offerAll c r l w = (.ok [], w) := by
  induction l with
  | nil => rfl
  | cons b l ih =>
    rw [anyEnabled] at off
    split at off
    · rename_i disabled
      simp only [offerAll, disabled, ih off]
    · rename_i enabled
      exact absurd off enabled

/-- Seen from a fan-out, a fan-out among its members is the same as its own members. -/
theorem Serves.offered_members {accepts : Bool} {reach : Reach} {s : Sink σ}
    (serves : Serves deliver c r accepts reach s.behaviour) :
    Offered deliver c r reach (Sink.behaviours s.members) := by
  cases s with
  | spread ms =>
    intro w
    have enabled : anyEnabled c r.level (Sink.behaviours ms) = .ok accepts := serves.enabled
    cases accepts with
    | false =>
      rw [serves.silent rfl]
      exact ⟨w, offered_of_silent enabled w, w.adds_nothing.follows_nowhere⟩
    | true =>
      obtain ⟨v, fine, follows⟩ := serves.handle rfl w
      refine ⟨v, ?_, follows⟩
      simp only [Sink.behaviour, fanout] at fine
      change offerAll c r (Sink.behaviours ms) w = _
      rcases h : offerAll c r (Sink.behaviours ms) w with ⟨p | es, u⟩
      · simp [h] at fine
      · cases es with
        | nil => simpa [h, SinkError.join, Outcome.ofResult] using fine
        | cons e es => simp [h, SinkError.join, Outcome.ofResult] at fine
  | _ => exact serves.offered

theorem behaviours_flatten_cons (s : Sink σ) (ms : List (Sink σ)) :
    Sink.behaviours (Sink.flatten (s :: ms)) =
      Sink.behaviours s.members ++ Sink.behaviours (Sink.flatten ms) := by
  simp only [Sink.flatten_cons, Sink.behaviours_eq_map, List.map_append]

theorem enabled_members {l : Level} (s : Sink σ) :
    anyEnabled c l (Sink.behaviours s.members) = s.behaviour.enabled c l := by
  cases s with
  | spread ms => rfl
  | _ => exact anyEnabled_single l _

section
variable {α : Type} {xs : List α} {a : α → Bool} {f : α → Reach}

theorem all_nowhere (silent : ∀ x ∈ xs, f x = .nowhere) : Reach.all (xs.map f) = .nowhere := by
  induction xs with
  | nil => rfl
  | cons x xs ih =>
    obtain ⟨first, others⟩ := List.forall_mem_cons.mp silent
    rw [List.map_cons, first, Reach.all, ih others]
    rfl

theorem silent_all (silent : ∀ x ∈ xs, a x = false → f x = .nowhere) (off : xs.any a = false) :
    Reach.all (xs.map f) = .nowhere := by
  refine all_nowhere fun x hx => silent x hx ?_
  simpa using List.any_eq_false.mp off x hx

theorem offered_flatten {t : α → Sink σ}
    (serves : ∀ x ∈ xs, Serves deliver c r (a x) (f x) (t x).behaviour) :
    Offered deliver c r (.all (xs.map f)) (Sink.behaviours (Sink.flatten (xs.map t))) := by
  induction xs with
  | nil => exact offered_nil
  | cons x xs ih =>
    obtain ⟨first, others⟩ := List.forall_mem_cons.mp serves
    rw [List.map_cons, List.map_cons, behaviours_flatten_cons]
    exact first.offered_members.append (ih others)

theorem enabled_flatten {t : α → Sink σ} {l : Level}
    (enabled : ∀ x ∈ xs, (t x).behaviour.enabled c l = .ok (a x)) :
    anyEnabled c l (Sink.behaviours (Sink.flatten (xs.map t))) = .ok (xs.any a) := by
  induction xs with
  | nil => rfl
  | cons x xs ih =>
    obtain ⟨first, others⟩ := List.forall_mem_cons.mp enabled
    rw [List.map_cons, behaviours_flatten_cons, anyEnabled_append, enabled_members, first,
      ih others, List.any_cons]
    cases a x <;> rfl

theorem serves_fanout {t : α → Sink σ}
    (serves : ∀ x ∈ xs, Serves deliver c r (a x) (f x) (t x).behaviour) :
    Serves deliver c r (xs.any a) (.all (xs.map f)) (Sink.fanout (xs.map t)).behaviour := by
  have offered := offered_flatten serves
  have enabled := enabled_flatten fun x hx => (serves x hx).enabled
  have silent := silent_all fun x hx => (serves x hx).silent
  by_cases one : (Sink.flatten (xs.map t)).length = 1
  · obtain ⟨s, hs⟩ := List.length_eq_one_iff.mp one
    rw [Sink.fanout_single hs]
    rw [hs, Sink.behaviours, Sink.behaviours] at offered enabled
    rw [anyEnabled_single] at enabled
    refine ⟨enabled, fun yes w => ?_, silent⟩
    exact offered.single (yes ▸ enabled) w
  · rw [Sink.fanout_many one]
    refine ⟨enabled, fun _ w => ?_, silent⟩
    obtain ⟨v, fine, follows⟩ := offered w
    exact ⟨v, by simp only [Sink.behaviour, fanout, fine]; rfl, follows⟩

theorem serves_firstSuccess {b : α → Behaviour σ}
    (serves : ∀ x ∈ xs, Serves deliver c r (a x) (f x) (b x)) (some_on : xs.any a = true)
    (last : Option SinkError) (w : World σ) :
    ∃ v, firstSuccess c r (xs.map b) last w = (.fine, v) ∧
      w.Follows deliver (.firstOf (xs.map fun x => (a x, f x))) v := by
  induction xs with
  | nil => simp at some_on
  | cons x xs ih =>
    obtain ⟨first, others⟩ := List.forall_mem_cons.mp serves
    cases on : a x with
    | true =>
      obtain ⟨v, fine, follows⟩ := first.guarded on w
      refine ⟨v, ?_, ?_⟩
      · simp only [List.map_cons, firstSuccess, first.enabled, on, fine]
      · simp only [List.map_cons, Reach.firstOf, List.find?_cons, on]
        exact follows
    | false =>
      rw [List.any_cons, on, Bool.false_or] at some_on
      obtain ⟨v, fine, follows⟩ := ih others some_on
      refine ⟨v, ?_, ?_⟩
      · simpa only [List.map_cons, firstSuccess, first.enabled, on] using fine
      · simpa only [List.map_cons, Reach.firstOf, List.find?_cons, on] using follows

theorem anyEnabled_served {b : α → Behaviour σ} {l : Level}
    (enabled : ∀ x ∈ xs, (b x).enabled c l = .ok (a x)) :
    anyEnabled c l (xs.map b) = .ok (xs.any a) := by
  induction xs with
  | nil => rfl
  | cons x xs ih =>
    obtain ⟨first, others⟩ := List.forall_mem_cons.mp enabled
    rw [List.map_cons, anyEnabled, first, List.any_cons, ih others]
    cases a x <;> rfl

theorem silent_firstOf (off : xs.any a = false) :
    Reach.firstOf (xs.map fun x => (a x, f x)) = .nowhere := by
  have none : (xs.map fun x => (a x, f x)).find? Prod.fst = none := by
    simpa [List.find?_eq_none] using off
  rw [Reach.firstOf, none]
  rfl

theorem serves_failover {b : α → Behaviour σ}
    (serves : ∀ x ∈ xs, Serves deliver c r (a x) (f x) (b x)) :
    Serves deliver c r (xs.any a) (.firstOf (xs.map fun x => (a x, f x)))
      (failover (xs.map b)) where
  enabled := anyEnabled_served fun x hx => (serves x hx).enabled
  handle yes w := serves_firstSuccess serves yes none w
  silent := silent_firstOf

theorem starts_draw (w : World σ) (n : Nat) :
    (w.draw n).2.starts = fun i => w.starts (i + 1) := by
  funext i
  simp only [World.draw, World.starts]
  congr 1
  omega

theorem serves_pool {b : α → Behaviour σ}
    (serves : ∀ x ∈ xs, Serves deliver c r (a x) (f x) (b x)) :
    Serves deliver c r (xs.any a) (.fromStart (xs.map fun x => (a x, f x)))
      (pool (xs.map b)) where
  enabled := anyEnabled_served fun x hx => (serves x hx).enabled
  silent off := by
    funext starts
    have none : (xs.map fun x => (a x, f x)).any Prod.fst = false := by
      simpa [List.any_map] using off
    simp [Reach.fromStart, none, Reach.nowhere]
  handle yes w := by
    have some_on : (xs.map fun x => (a x, f x)).any Prod.fst = true := by
      simpa [List.any_map] using yes
    have rotated_on : (rotate (w.draw xs.length).1 xs).any a = true := by
      simpa only [List.any_eq_true, mem_rotate] using yes
    obtain ⟨v, fine, follows⟩ := serves_firstSuccess
      (fun x hx => serves x (mem_rotate.mp hx)) rotated_on none (w.draw xs.length).2
    have nonempty : xs.isEmpty = false := by
      cases xs <;> simp at yes ⊢
    refine ⟨v, ?_, ?_⟩
    · simp only [pool, List.isEmpty_map, nonempty, List.length_map, rotate_map]
      exact fine
    · rw [World.Follows, starts_draw] at follows
      simp only [World.Follows, Reach.fromStart, some_on, if_true, List.length_map,
        ← List.map_drop, ← List.map_take, ← List.map_append]
      exact ⟨follows.deliveries, follows.starts⟩

theorem all_filter (m : α → Bool) :
    Reach.all ((xs.filter m).map f) = Reach.all (xs.map fun x => if m x then f x else .nowhere) := by
  induction xs with
  | nil => rfl
  | cons x xs ih =>
    cases hit : m x with
    | true => simp only [List.filter_cons, List.map_cons, hit, if_true, Reach.all, ih]
    | false =>
      simp only [List.filter_cons, List.map_cons, hit, Bool.false_eq_true, if_false, Reach.all, ih]
      rfl

def Decides (c : Context) (r : Record) (g : Guard σ) (hit : Bool) : Prop :=
  ∀ w, g.isMatch c r w = (.ok hit, w)

theorem serves_routed {accepts hit : Bool} {reach : Reach} {g : Guard σ} {b : Behaviour σ}
    (decides : Decides c r g hit) (unmarked : g.matched = false)
    (serves : Serves deliver c r accepts reach b) :
    Serves deliver c r accepts (if hit then reach else .nowhere) (routed g b) where
  enabled := serves.enabled
  handle yes w := by
    obtain ⟨v, fine, follows⟩ := serves.handle yes w
    cases hit with
    | true => exact ⟨v, by simp [routed, unmarked, decides w, fine], follows⟩
    | false =>
      have noted := w.adds_note (.notRouted b.name r.message)
      exact ⟨_, by simp [routed, unmarked, decides w], noted.follows_nowhere⟩
  silent off := by
    rw [serves.silent off]
    exact ite_self _

theorem firstMatching_decides {g : α → Guard σ} {b : α → Behaviour σ} {m : α → Bool}
    (decides : ∀ x ∈ xs, Decides c r (g x) (m x)) (w : World σ) :
    firstMatching c r (xs.map fun x => (g x, b x)) w =
      (.ok ((xs.filter m).head?.map fun x => (g x, b x)), w) := by
  induction xs with
  | nil => rfl
  | cons x xs ih =>
    obtain ⟨first, others⟩ := List.forall_mem_cons.mp decides
    rw [List.map_cons, firstMatching, first w]
    cases hit : m x with
    | true => simp [hit]
    | false => simp only [ih others, List.filter_cons, hit, Bool.false_eq_true, if_false]

/-- Where every guard decides and one takes the record, the search ends at a route. -/
theorem firstMatching_found {rs : List (Route σ)}
    (decides : ∀ route ∈ rs, ∃ hit, Decides c r route.1 hit)
    (takes : ∃ route ∈ rs, Decides c r route.1 true) (w : World σ) :
    ∃ route ∈ rs, firstMatching c r rs w = (.ok (some route), w) := by
  induction rs with
  | nil =>
    obtain ⟨_, member, _⟩ := takes
    cases member
  | cons first rest ih =>
    obtain ⟨⟨hit, decided⟩, others⟩ := List.forall_mem_cons.mp decides
    cases hit with
    | true => exact ⟨first, List.mem_cons_self, by simp only [firstMatching, decided w]⟩
    | false =>
      have later : ∃ route ∈ rest, Decides c r route.1 true := by
        obtain ⟨route, member, taken⟩ := takes
        cases member with
        | head =>
          have both := (decided w).symm.trans (taken w)
          cases (Prod.mk.inj both).1
        | tail _ member => exact ⟨route, member, taken⟩
      obtain ⟨route, member, found⟩ := ih others later
      refine ⟨route, List.mem_cons_of_mem first member, ?_⟩
      simp only [firstMatching, decided w, found]

theorem serves_firstMatch {g : α → Guard σ} {b : α → Behaviour σ} {m : α → Bool}
    (decides : ∀ x ∈ xs, Decides c r (g x) (m x)) (marked : ∀ x ∈ xs, (g x).matched = true)
    (serves : ∀ x ∈ xs, Serves deliver c r (a x) (f x) (b x)) :
    Serves deliver c r (xs.any a) (((xs.filter m).map f).head?.getD .nowhere)
      (firstMatch (xs.map fun x => (g x, b x))) where
  enabled := by
    simp only [firstMatch, List.map_map]
    exact anyEnabled_served fun x hx => (serves x hx).enabled
  silent off := by
    rw [List.head?_map]
    cases winner : (xs.filter m).head? with
    | none => rfl
    | some x =>
      have hx := (List.mem_filter.mp (List.mem_of_mem_head? winner)).1
      exact (serves x hx).silent (by simpa using List.any_eq_false.mp off x hx)
  handle _ w := by
    simp only [firstMatch, firstMatching_decides decides]
    rw [List.head?_map]
    cases winner : (xs.filter m).head? with
    | none => exact ⟨_, rfl, (w.adds_note _).follows_nowhere⟩
    | some x =>
      have hx := (List.mem_filter.mp (List.mem_of_mem_head? winner)).1
      simp only [Option.map_some, (serves x hx).enabled, Option.getD_some]
      cases on : a x with
      | false =>
        rw [(serves x hx).silent on]
        exact ⟨_, rfl, (w.adds_note _).follows_nowhere⟩
      | true =>
        obtain ⟨v, fine, follows⟩ := (serves x hx).guarded on w
        refine ⟨v, ?_, follows⟩
        have same : (routed (g x) (b x)).guarded c r w = (b x).guarded c r w := by
          simp only [guarded_eq_fence, routed, marked x hx, if_true]
        simp only [same, fine]
        rfl

theorem serves_recovered {accepts : Bool} {reach : Reach} {b : Behaviour σ} {recovery : Recovery σ}
    (serves : Serves deliver c r accepts reach b) :
    Serves deliver c r accepts reach (recovered recovery b) where
  enabled := serves.enabled
  handle yes w := by
    obtain ⟨v, fine, follows⟩ := serves.guarded yes w
    exact ⟨v, by simp only [recovered, fine], follows⟩
  silent := serves.silent

end

end
end Behaviour
end LogTree
