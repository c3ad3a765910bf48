import LogTree.Proofs.Boundary

/-!
How a record goes through a tree: which leaves are called, in which order, and what they answer. The
trail of a run keeps the answers of the members of each composite and nothing of the errors that are
made of them, so what has to be reported is read off the trail.
-/
namespace LogTree
variable {σ : Type}

/-- What a leaf that did not take a record is reported as. -/
def Leaf.failure? (l : Leaf σ) : Outcome → Option SinkError
  | .fine => none
  | .failed e => some e
  | .panicked p => some (.panic l.name p.message)

inductive Trail (σ : Type) where
  | call (leaf : Leaf σ) (answer : Outcome)
  /-- Members that each had the record. -/
  | all (offers : List (Except SinkError Unit × Trail σ))
  /-- Members that were tried in turn. -/
  | tried (attempts : List (Except SinkError Unit × Trail σ))

namespace Trail

abbrev Answer (σ : Type) := Except SinkError Unit × Trail σ

mutual

def calls : Trail σ → List (Leaf σ × Outcome)
  | .call l answer => [(l, answer)]
  | .all offers => callsEach offers
  | .tried attempts => callsEach attempts

def callsEach : List (Answer σ) → List (Leaf σ × Outcome)
  | [] => []
  | (_, t) :: rest => calls t ++ callsEach rest

end

mutual

/-- The failures of leaves that have to be reported, in the order of the calls. Of members that were
tried in turn only the last has a say. -/
def reported : Trail σ → List SinkError
  | .call l answer => (l.failure? answer).toList
  | .all offers => reportedEach offers
  | .tried attempts => reportedLast [] attempts

def reportedEach : List (Answer σ) → List SinkError
  | [] => []
  | (_, t) :: rest => reported t ++ reportedEach rest

def reportedLast (last : List SinkError) :
    List (Answer σ) → List SinkError
  | [] => last
  | (.ok (), _) :: rest => reportedLast [] rest
  | (.error _, t) :: rest => reportedLast (reported t) rest

end

/-- A leaf failed, and wherever members were tried in turn none answered well after it. -/
inductive Stands : Trail σ → Prop where
  | call {l : Leaf σ} {answer : Outcome} {e : SinkError} :
    l.failure? answer = some e → Stands (.call l answer)
  | all {a : Except SinkError Unit} {t : Trail σ} {offers : List (Answer σ)} :
    (a, t) ∈ offers → Stands t → Stands (.all offers)
  | tried {a : Except SinkError Unit} {t : Trail σ}
    {before after : List (Answer σ)} :
    Stands t → (∀ x ∈ after, x.1 ≠ .ok ()) → Stands (.tried (before ++ (a, t) :: after))

def deliveries (t : Trail σ) (r : Record) : List Delivery := t.calls.map fun x => x.1.delivery r

/-- What holds of a trail as soon as it holds of the trails of its members holds of every trail. -/
@[elab_as_elim]
theorem induction {motive : Trail σ → Prop} (call : ∀ l answer, motive (.call l answer))
    (all : ∀ offers, (∀ x ∈ offers, motive x.2) → motive (.all offers))
    (tried : ∀ attempts, (∀ x ∈ attempts, motive x.2) → motive (.tried attempts)) (t : Trail σ) :
    motive t := by
  refine @Trail.rec σ motive (fun xs => ∀ x ∈ xs, motive x.2) (fun x => motive x.2)
    call all tried ?_ ?_ ?_ t
  · exact fun _ hx => absurd hx List.not_mem_nil
  · exact fun _ _ first others => List.forall_mem_cons.mpr ⟨first, others⟩
  · exact fun _ _ trail => trail

theorem deliveries_all_nil (r : Record) : (Trail.all (σ := σ) []).deliveries r = [] := by
  rw [deliveries, calls, callsEach, List.map_nil]

theorem deliveries_all_cons (x : Answer σ)
    (rest : List (Answer σ)) (r : Record) :
    (Trail.all (x :: rest)).deliveries r = x.2.deliveries r ++ (Trail.all rest).deliveries r := by
  simp only [deliveries, calls, callsEach, List.map_append]

theorem deliveries_tried (attempts : List (Answer σ)) (r : Record) :
    (Trail.tried attempts).deliveries r = (Trail.all attempts).deliveries r := by
  simp only [deliveries, calls]

/-- An answer that says what the trail says. -/
def Accounts (t : Trail σ) : Except SinkError Unit → Prop
  | .ok () => ¬ t.Stands ∧ t.reported = []
  | .error e => t.Stands ∧ e.leaves = t.reported.flatMap SinkError.leaves

def failures (answers : List (Answer σ)) : List SinkError :=
  answers.filterMap fun x => match x.1 with
    | .ok () => none
    | .error e => some e

theorem callsEach_eq_flatMap (xs : List (Answer σ)) :
    callsEach xs = xs.flatMap fun x => x.2.calls := by
  induction xs with
  | nil => simp [callsEach]
  | cons x rest ih => simp [callsEach, ih]

theorem reportedEach_eq_flatMap (xs : List (Answer σ)) :
    reportedEach xs = xs.flatMap fun x => x.2.reported := by
  induction xs with
  | nil => simp [reportedEach]
  | cons x rest ih => simp [reportedEach, ih]

theorem reportedLast_concat (last : List SinkError) (init : List (Answer σ))
    (x : Answer σ) :
    reportedLast last (init ++ [x]) = reportedLast [] [x] := by
  induction init generalizing last with
  | nil =>
    obtain ⟨_ | _, t⟩ := x <;> simp only [List.nil_append, reportedLast]
  | cons y rest ih =>
    obtain ⟨_ | _, t⟩ := y <;> simp only [List.cons_append, reportedLast, ih]

/-- The failures of the leaves that were called, reported or not. -/
def failed (t : Trail σ) : List SinkError := t.calls.filterMap fun x => x.1.failure? x.2

/-- What is reported are failures of calls, each for one call and in the order of the calls. -/
theorem reported_sublist_failed (t : Trail σ) : List.Sublist t.reported t.failed := by
  induction t using induction with
  | call l answer =>
    rw [reported, failed, calls]
    cases h : l.failure? answer <;> simp [h]
  | all offers ih =>
    rw [reported, failed, calls]
    induction offers with
    | nil => exact List.nil_sublist _
    | cons x rest ihr =>
      obtain ⟨first, others⟩ := List.forall_mem_cons.mp ih
      rw [reportedEach, callsEach, List.filterMap_append]
      exact List.Sublist.append first (ihr others)
  | tried attempts ih =>
    rw [reported, failed, calls]
    rcases List.eq_nil_or_concat' attempts with rfl | ⟨init, ⟨a, t⟩, rfl⟩
    · exact List.nil_sublist _
    · have last := ih (a, t) (List.mem_append_right init List.mem_cons_self)
      rw [reportedLast_concat, callsEach_eq_flatMap, List.flatMap_append, List.flatMap_singleton,
        List.filterMap_append]
      cases a with
      | ok u => exact List.nil_sublist _
      | error e => exact last.trans (List.sublist_append_right _ _)

theorem accounts_nothing : (Trail.all (σ := σ) []).Accounts (.ok ()) := by
  constructor
  · intro stands
    cases stands with
    | all hx _ => exact List.not_mem_nil hx
  · rw [reported, reportedEach]

theorem accounts_call (l : Leaf σ) (answer : Outcome) (w : World σ) :
    (Trail.call l answer).Accounts (Behaviour.fence l.name (answer, w)).1 := by
  cases answer with
  | fine =>
    constructor
    · intro stands
      cases stands with
      | call failed => cases failed
    · rw [reported, Leaf.failure?, Option.toList]
  | failed e =>
    refine ⟨.call rfl, ?_⟩
    rw [reported, Leaf.failure?, Option.toList, List.flatMap_singleton]
  | panicked p =>
    refine ⟨.call rfl, ?_⟩
    rw [reported, Leaf.failure?, Option.toList, List.flatMap_singleton]

theorem leaves_failures {answers : List (Answer σ)}
    (accounts : ∀ x ∈ answers, x.2.Accounts x.1) :
    (failures answers).flatMap SinkError.leaves =
      (reportedEach answers).flatMap SinkError.leaves := by
  induction answers with
  | nil => rw [reportedEach]; rfl
  | cons x rest ih =>
    obtain ⟨first, others⟩ := List.forall_mem_cons.mp accounts
    obtain ⟨a, t⟩ := x
    rw [reportedEach, List.flatMap_append, ← ih others]
    cases a with
    | ok u =>
      have nothing : t.reported = [] := first.2
      rw [nothing]
      rfl
    | error e =>
      have same : e.leaves = t.reported.flatMap SinkError.leaves := first.2
      rw [← same]
      rfl

theorem mem_failures {answers : List (Answer σ)} {e : SinkError} :
    e ∈ failures answers ↔ ∃ t, (.error e, t) ∈ answers := by
  rw [failures, List.mem_filterMap]
  constructor
  · rintro ⟨⟨_ | _, t⟩, hx, found⟩
    · exact ⟨t, Option.some.inj found ▸ hx⟩
    · cases found
  · rintro ⟨t, hx⟩
    exact ⟨_, hx, rfl⟩

/-- Members that each had the record fail if one of them does. -/
theorem accounts_all {offers : List (Answer σ)}
    (accounts : ∀ x ∈ offers, x.2.Accounts x.1) :
    (Trail.all offers).Accounts (SinkError.join (failures offers)) := by
  have same := leaves_failures accounts
  cases h : failures offers with
  | nil =>
    have fine : ∀ x ∈ offers, ¬ x.2.Stands ∧ x.2.reported = [] := by
      rintro ⟨_ | _, t⟩ hx
      · have failed := mem_failures.mpr ⟨t, hx⟩
        rw [h] at failed
        cases failed
      · exact accounts _ hx
    constructor
    · intro stands
      cases stands with
      | all hx inner => exact (fine _ hx).1 inner
    · rw [reported, reportedEach_eq_flatMap, List.flatMap_eq_nil_iff]
      exact fun x hx => (fine x hx).2
  | cons e es =>
    have failed : e ∈ failures offers := h ▸ List.mem_cons_self
    obtain ⟨t, ht⟩ := mem_failures.mp failed
    have stands : t.Stands := (accounts _ ht).1
    refine ⟨.all ht stands, ?_⟩
    rw [SinkError.leaves_aggregate, reported, ← same, h]

theorem last_eq_or_mem {before after init : List (Answer σ)}
    {x last : Answer σ} (same : init ++ [last] = before ++ x :: after) :
    last = x ∨ last ∈ after := by
  rcases List.eq_nil_or_concat' after with rfl | ⟨rest, y, rfl⟩
  · have ends := List.append_inj_right' same rfl
    exact .inl (List.singleton_inj.mp ends)
  · have same' : init ++ [last] = (before ++ x :: rest) ++ [y] := by
      simpa only [List.append_assoc, List.cons_append] using same
    have ends := List.append_inj_right' same' rfl
    rw [List.singleton_inj.mp ends]
    exact .inr (List.mem_append_right rest List.mem_cons_self)

def lastAnswer (start : Except SinkError Unit) (answers : List (Answer σ)) :
    Except SinkError Unit := answers.foldl (fun _ x => x.1) start

/-- Of members that were tried in turn the last decides. -/
theorem accounts_tried {attempts : List (Answer σ)}
    (accounts : ∀ x ∈ attempts, x.2.Accounts x.1) :
    (Trail.tried attempts).Accounts (lastAnswer (.ok ()) attempts) := by
  rcases List.eq_nil_or_concat' attempts with rfl | ⟨init, ⟨a, t⟩, rfl⟩
  · constructor
    · intro stands
      generalize same : ([] : List (Answer σ)) = attempts at stands
      cases stands with
      | tried _ _ =>
        have none := List.append_eq_nil_iff.mp same.symm
        exact List.cons_ne_nil _ _ none.2
    · rw [reported, reportedLast]
  · have last := accounts (a, t) (List.mem_append_right init List.mem_cons_self)
    rw [lastAnswer, List.foldl_append, List.foldl_cons, List.foldl_nil]
    cases a with
    | ok u =>
      constructor
      · intro stands
        generalize same : init ++ [(Except.ok u, t)] = attempts at stands
        cases stands with
        | tried inner later =>
          rcases last_eq_or_mem same with here | there
          · cases here
            exact last.1 inner
          · exact later _ there rfl
      · rw [reported, reportedLast_concat, reportedLast, reportedLast]
    | error e =>
      refine ⟨.tried last.1 (fun x hx => absurd hx List.not_mem_nil), ?_⟩
      rw [reported, reportedLast_concat, reportedLast, reportedLast]
      exact last.2

end Trail

namespace Behaviour

/-- The world after a member of a fan-out had the record. -/
def handed (c : Context) (r : Record) (w : World σ) (b : Behaviour σ) : World σ :=
  match b.guarded c r w with
  | (.ok (), v) => v
  | (.error e, v) => v.note (.memberFailed b.name e.text)

end Behaviour

/-- A sink that, beside what it does, tells the trail of a run. -/
structure Traced (σ : Type) where
  behaviour : Behaviour σ
  trail : World σ → Trail σ

namespace Traced

def offers (c : Context) (r : Record) :
    List (Traced σ) → World σ → List (Trail.Answer σ)
  | [], _ => []
  | m :: rest, w =>
    if m.behaviour.takes c r.level then
      ((m.behaviour.guarded c r w).1, m.trail w) :: offers c r rest (m.behaviour.handed c r w)
    else offers c r rest w

def attempts (c : Context) (r : Record) :
    List (Traced σ) → World σ → List (Trail.Answer σ)
  | [], _ => []
  | m :: rest, w =>
    if m.behaviour.takes c r.level then
      match m.behaviour.guarded c r w with
      | (.ok (), _) => [(.ok (), m.trail w)]
      | (.error e, v) =>
        (.error e, m.trail w) :: attempts c r rest (v.note (.triedNext m.behaviour.name e.text))
    else attempts c r rest w

def leaf (c : Context) (r : Record) (l : Leaf σ) : Traced σ where
  behaviour := l.behaviour
  trail w := .call l (l.behaviour.handle c r w).1

def fanout (c : Context) (r : Record) (ms : List (Traced σ)) : Traced σ where
  behaviour := .fanout (ms.map behaviour)
  trail w := .all (offers c r ms w)

def failover (c : Context) (r : Record) (ms : List (Traced σ)) : Traced σ where
  behaviour := .failover (ms.map behaviour)
  trail w := .tried (attempts c r ms w)

def pool (c : Context) (r : Record) (ms : List (Traced σ)) : Traced σ where
  behaviour := .pool (ms.map behaviour)
  trail w := .tried (attempts c r (Behaviour.rotate (w.draw ms.length).1 ms) (w.draw ms.length).2)

def routed (c : Context) (r : Record) (g : Guard σ) (m : Traced σ) : Traced σ where
  behaviour := .routed g m.behaviour
  trail w :=
    if g.matched then m.trail w
    else match g.isMatch c r w with
      | (.ok true, v) => m.trail v
      | _ => .all []

def winner (c : Context) (r : Record) : List (Guard σ × Traced σ) → World σ → Trail σ
  | [], _ => .all []
  | (g, m) :: rest, w =>
    match g.isMatch c r w with
    | (.ok true, v) => if m.behaviour.takes c r.level then (routed c r g m).trail v else .all []
    | (.ok false, v) => winner c r rest v
    | (.error _, _) => .all []

def firstMatch (c : Context) (r : Record) (rs : List (Guard σ × Traced σ)) : Traced σ where
  behaviour := .firstMatch (rs.map fun x => (x.1, x.2.behaviour))
  trail := winner c r rs

def recovered (recovery : Recovery σ) (m : Traced σ) : Traced σ where
  behaviour := .recovered recovery m.behaviour
  trail := m.trail

def metered (c : Context) (r : Record) (i : MeterId) (m : Traced σ) : Traced σ where
  behaviour := .metered i m.behaviour
  trail w := if m.behaviour.takes c r.level then m.trail w else .all []

def hooked (h : Hooks) (m : Traced σ) : Traced σ where
  behaviour := .hooked h m.behaviour
  trail := m.trail

end Traced

namespace Sink

mutual

def traced (c : Context) (r : Record) : Sink σ → Traced σ
  | .leaf l => .leaf c r l
  | .spread ms => .fanout c r (tracedEach c r ms)
  | .failover ms => .failover c r (tracedEach c r ms)
  | .pool ms => .pool c r (tracedEach c r ms)
  | .routed g s => .routed c r g (traced c r s)
  | .firstMatch rs => .firstMatch c r (tracedRoutes c r rs)
  | .recovered recovery s => .recovered recovery (traced c r s)
  | .metered m s => .metered c r m (traced c r s)
  | .hooked h s => .hooked h (traced c r s)

def tracedEach (c : Context) (r : Record) : List (Sink σ) → List (Traced σ)
  | [] => []
  | s :: rest => traced c r s :: tracedEach c r rest

def tracedRoutes (c : Context) (r : Record) : List (Guard σ × Sink σ) → List (Guard σ × Traced σ)
  | [] => []
  | (g, s) :: rest => (g, traced c r s) :: tracedRoutes c r rest

end

def trail (s : Sink σ) (c : Context) (r : Record) : World σ → Trail σ := (s.traced c r).trail

theorem tracedEach_eq_map (c : Context) (r : Record) (ms : List (Sink σ)) :
    tracedEach c r ms = ms.map (traced c r) := by
  induction ms with
  | nil => simp [tracedEach]
  | cons s rest ih => simp [tracedEach, ih]

theorem tracedRoutes_eq_map (c : Context) (r : Record) (rs : List (Guard σ × Sink σ)) :
    tracedRoutes c r rs = rs.map fun x => (x.1, x.2.traced c r) := by
  induction rs with
  | nil => simp [tracedRoutes]
  | cons x rest ih => simp [tracedRoutes, ih]

theorem behaviour_traced (c : Context) (r : Record) (s : Sink σ) :
    (s.traced c r).behaviour = s.behaviour := by
  induction s using induction with
  | leaf l => rfl
  | spread ms ih | failover ms ih | pool ms ih =>
    have each : (ms.map (traced c r)).map Traced.behaviour = ms.map behaviour := by
      rw [List.map_map]
      exact List.map_congr_left ih
    rw [traced, behaviour, tracedEach_eq_map, behaviours_eq_map, ← each]
    rfl
  | firstMatch rs ih =>
    rw [traced, behaviour, tracedRoutes_eq_map, routeBehaviours_eq_map]
    simp only [Traced.firstMatch, List.map_map]
    refine congrArg _ (List.map_congr_left fun x hx => ?_)
    exact congrArg (Prod.mk x.1) (ih x hx)
  | routed g s ih => exact congrArg (Behaviour.routed g) ih
  | recovered recovery s ih => exact congrArg (Behaviour.recovered recovery) ih
  | metered m s ih => exact congrArg (Behaviour.metered m) ih
  | hooked h s ih => exact congrArg (Behaviour.hooked h) ih

end Sink
end LogTree
