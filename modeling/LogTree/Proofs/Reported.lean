import LogTree.Proofs.Trail

/-!
What a tree reports of the failures of its leaves. One relation between a sink and its trail, with one
lemma for each kind of node over members that keep it. Main statement: `failures_reported`.
-/
namespace LogTree
variable {σ : Type}

/-- Level checks and predicates come back, and no hook sees a level or a record. -/
def Part.Calm : Part σ → Prop
  | .leaf l => ∀ c level, l.behaviour.Answers c level
  | .guard g => ∀ c r w p, (g.isMatch c r w).1 ≠ .error p
  | .hooks h => h.onEnabled = none ∧ h.onHandle = none
  | _ => True

namespace Trail

/-- The trail of a run has its calls, which were made as told, and accounts for its answer. -/
structure Explains (made : Leaf σ → Outcome → Prop) (r : Record) (w : World σ)
    (run : Except SinkError Unit × World σ) (t : Trail σ) : Prop where
  accounts : t.Accounts run.1
  delivers : run.2.deliveries.toList = w.deliveries.toList ++ t.deliveries r
  calls : ∀ x ∈ t.calls, made x.1 x.2

section
variable {made : Leaf σ → Outcome → Prop} {r : Record} {u v w : World σ}

theorem explains_nothing (kept : v.deliveries = w.deliveries) :
    (Trail.all []).Explains made r w (.ok (), v) := by
  constructor
  · exact accounts_nothing
  · rw [deliveries_all_nil, List.append_nil, kept]
  · intro x hx
    rw [calls, callsEach] at hx
    exact absurd hx List.not_mem_nil

theorem Explains.around {run : Except SinkError Unit × World σ} {t : Trail σ}
    (explains : t.Explains made r v run) (before : v.deliveries = w.deliveries)
    (after : u.deliveries = run.2.deliveries) : t.Explains made r w (run.1, u) where
  accounts := explains.accounts
  delivers := by rw [after, ← before]; exact explains.delivers
  calls := explains.calls

end
end Trail

namespace Traced
open Behaviour

structure Explained (made : Leaf σ → Outcome → Prop) (c : Context) (r : Record) (m : Traced σ) :
    Prop where
  answers : m.behaviour.Answers c r.level
  run : ∀ w, (m.trail w).Explains made r w (m.behaviour.guarded c r w)

def Told (c : Context) (r : Record) (ms : List (Traced σ)) (x : Trail.Answer σ) :
    Prop := ∃ m ∈ ms, ∃ w, x = ((m.behaviour.guarded c r w).1, m.trail w)

section
variable {made : Leaf σ → Outcome → Prop} {c : Context} {r : Record}

theorem Told.first {m : Traced σ} {ms : List (Traced σ)} (w : World σ) :
    Told c r (m :: ms) ((m.behaviour.guarded c r w).1, m.trail w) :=
  ⟨m, List.mem_cons_self, w, rfl⟩

theorem Told.later {x : Trail.Answer σ} {ms : List (Traced σ)}
    (told : Told c r ms x) (m : Traced σ) : Told c r (m :: ms) x := by
  obtain ⟨n, hn, w, same⟩ := told
  exact ⟨n, List.mem_cons_of_mem m hn, w, same⟩

theorem told_offers {ms : List (Traced σ)} {w : World σ} :
    ∀ x ∈ offers c r ms w, Told c r ms x := by
  induction ms generalizing w with
  | nil => exact fun x hx => absurd hx List.not_mem_nil
  | cons m rest ih =>
    intro x hx
    rw [offers] at hx
    split at hx
    · cases List.mem_cons.mp hx with
      | inl here => exact here ▸ .first w
      | inr there => exact (ih x there).later m
    · exact (ih x hx).later m

theorem told_attempts {ms : List (Traced σ)} {w : World σ} :
    ∀ x ∈ attempts c r ms w, Told c r ms x := by
  induction ms generalizing w with
  | nil => exact fun x hx => absurd hx List.not_mem_nil
  | cons m rest ih =>
    intro x hx
    have first : Told c r (m :: rest) ((m.behaviour.guarded c r w).1, m.trail w) := .first w
    rw [attempts] at hx
    split at hx
    · rcases answer : m.behaviour.guarded c r w with ⟨e | u, v⟩ <;> rw [answer] at hx first
      · cases List.mem_cons.mp hx with
        | inl here => exact here ▸ first
        | inr there => exact (ih x there).later m
      · exact List.mem_singleton.mp hx ▸ first
    · exact (ih x hx).later m

theorem Told.accounts {x : Trail.Answer σ} {ms : List (Traced σ)}
    (told : Told c r ms x) (explained : ∀ m ∈ ms, m.Explained made c r) : x.2.Accounts x.1 := by
  obtain ⟨m, hm, w, rfl⟩ := told
  exact ((explained m hm).run w).accounts

theorem made_callsEach {ms : List (Traced σ)} {xs : List (Trail.Answer σ)}
    (told : ∀ x ∈ xs, Told c r ms x) (explained : ∀ m ∈ ms, m.Explained made c r) :
    ∀ y ∈ Trail.callsEach xs, made y.1 y.2 := by
  intro y hy
  rw [Trail.callsEach_eq_flatMap, List.mem_flatMap] at hy
  obtain ⟨x, hx, hy⟩ := hy
  obtain ⟨m, hm, w, rfl⟩ := told x hx
  exact ((explained m hm).run w).calls y hy

theorem answers_members {ms : List (Traced σ)} (explained : ∀ m ∈ ms, m.Explained made c r) :
    ∀ b ∈ ms.map behaviour, b.Answers c r.level := by
  intro b hb
  obtain ⟨m, hm, rfl⟩ := List.mem_map.mp hb
  exact (explained m hm).answers

/-- Every enabled member has the record once, in order, in the world that those before it left. -/
theorem offerAll_world {bs : List (Behaviour σ)} (answers : ∀ b ∈ bs, b.Answers c r.level)
    (w : World σ) :
    (offerAll c r bs w).2 = (bs.filter (takes c r.level)).foldl (handed c r) w := by
  induction bs generalizing w with
  | nil => rfl
  | cons b rest ih =>
    obtain ⟨first, others⟩ := List.forall_mem_cons.mp answers
    rw [offerAll, first.enabled]
    cases on : b.takes c r.level with
    | false =>
      rw [List.filter_cons_of_neg (by simp [on])]
      exact ih others w
    | true =>
      rw [List.filter_cons_of_pos on, List.foldl_cons, ← ih others, handed]
      rcases b.guarded c r w with ⟨e | u, v⟩
      · dsimp only
        split <;> rename_i h <;> rw [h]
      · rfl

theorem offerAll_failures {ms : List (Traced σ)}
    (answers : ∀ m ∈ ms, m.behaviour.Answers c r.level) (w : World σ) :
    (offerAll c r (ms.map behaviour) w).1 = .ok (Trail.failures (offers c r ms w)) := by
  induction ms generalizing w with
  | nil => rfl
  | cons m rest ih =>
    obtain ⟨first, others⟩ := List.forall_mem_cons.mp answers
    rw [List.map_cons, offerAll, offers, first.enabled]
    cases on : m.behaviour.takes c r.level with
    | false => exact ih others w
    | true =>
      have later := ih others (m.behaviour.handed c r w)
      rw [if_pos rfl]
      rcases answer : m.behaviour.guarded c r w with ⟨e | u, v⟩
      · have next : m.behaviour.handed c r w = v.note (.memberFailed m.behaviour.name e.text) := by
          rw [Behaviour.handed, answer]
        rw [next] at later ⊢
        dsimp only
        generalize offerAll c r (rest.map behaviour) _ = found at later ⊢
        obtain ⟨_ | es, _⟩ := found
        · cases later
        · cases later
          rfl
      · have next : m.behaviour.handed c r w = v := by rw [Behaviour.handed, answer]
        rw [next] at later ⊢
        exact later

theorem Explained.handed {m : Traced σ} (explained : m.Explained made c r) (w : World σ) :
    (m.behaviour.handed c r w).deliveries.toList =
      w.deliveries.toList ++ (m.trail w).deliveries r := by
  rw [← (explained.run w).delivers, Behaviour.handed]
  rcases m.behaviour.guarded c r w with ⟨e | u, v⟩ <;> rfl

theorem delivers_offers {ms : List (Traced σ)} (explained : ∀ m ∈ ms, m.Explained made c r)
    (w : World σ) :
    (((ms.map behaviour).filter (takes c r.level)).foldl (handed c r) w).deliveries.toList =
      w.deliveries.toList ++ (Trail.all (offers c r ms w)).deliveries r := by
  induction ms generalizing w with
  | nil => exact (List.append_nil _).symm
  | cons m rest ih =>
    obtain ⟨first, others⟩ := List.forall_mem_cons.mp explained
    rw [List.map_cons, offers]
    cases on : m.behaviour.takes c r.level with
    | false =>
      rw [List.filter_cons_of_neg (by simp [on])]
      exact ih others w
    | true =>
      rw [List.filter_cons_of_pos on, List.foldl_cons, ih others, first.handed w, if_pos rfl,
        Trail.deliveries_all_cons, List.append_assoc]

theorem deliveries_guarded (b : Behaviour σ) (w : World σ) :
    (b.guarded c r w).2.deliveries = (b.handle c r w).2.deliveries := by
  rw [guarded_eq_fence]
  rcases b.handle c r w with ⟨_ | _ | _, v⟩ <;> rfl

theorem explained_leaf (l : Leaf σ) (answers : l.behaviour.Answers c r.level)
    (calls : ∀ w, made l (l.behaviour.handle c r w).1) : (leaf c r l).Explained made c r := by
  refine ⟨answers, fun w => ⟨?_, ?_, ?_⟩⟩
  · exact Trail.accounts_call l (l.behaviour.handle c r w).1 (l.behaviour.handle c r w).2
  · rw [leaf, deliveries_guarded, Leaf.deliveries_handle, Array.toList_push]
    simp only [Trail.deliveries, Trail.calls, List.map_singleton]
  · intro x hx
    rw [leaf, Trail.calls, List.mem_singleton] at hx
    exact hx ▸ calls w

theorem explained_fanout {ms : List (Traced σ)} (explained : ∀ m ∈ ms, m.Explained made c r) :
    (fanout c r ms).Explained made c r := by
  have answers := answers_members explained
  refine ⟨fun p => anyEnabled_answers answers p, fun w => ?_⟩
  have failures := offerAll_failures (fun m hm => (explained m hm).answers) w
  have world := offerAll_world answers w
  have ran : (fanout c r ms).behaviour.guarded c r w =
      (SinkError.join (Trail.failures (offers c r ms w)),
        ((ms.map behaviour).filter (takes c r.level)).foldl (handed c r) w) := by
    rw [guarded_eq_fence]
    simp only [fanout, Behaviour.fanout]
    rcases found : offerAll c r (ms.map behaviour) w with ⟨p | es, v⟩ <;> rw [found] at failures world
    · cases failures
    · cases failures
      rw [← world]
      exact fence_ofResult _ _ _
  rw [ran]
  constructor
  · exact Trail.accounts_all fun x hx => (told_offers x hx).accounts explained
  · exact delivers_offers explained w
  · exact made_callsEach told_offers explained

/-- A failover answers as the last of the members that were tried. -/
theorem firstSuccess_attempts {ms : List (Traced σ)} (explained : ∀ m ∈ ms, m.Explained made c r)
    (last : Option SinkError) (w : World σ) :
    ∃ v, firstSuccess c r (ms.map behaviour) last w =
        (.ofResult (Trail.lastAnswer (last.elim (.ok ()) .error) (attempts c r ms w)), v) ∧
      v.deliveries.toList =
        w.deliveries.toList ++ (Trail.all (attempts c r ms w)).deliveries r := by
  induction ms generalizing last w with
  | nil =>
    refine ⟨w, ?_, (List.append_nil _).symm⟩
    cases last <;> rfl
  | cons m rest ih =>
    obtain ⟨first, others⟩ := List.forall_mem_cons.mp explained
    have here := (first.run w).delivers
    rw [List.map_cons, firstSuccess, attempts, first.answers.enabled]
    cases on : m.behaviour.takes c r.level with
    | false => exact ih others last w
    | true =>
      rcases answer : m.behaviour.guarded c r w with ⟨e | u, v⟩ <;> rw [answer] at here
      · obtain ⟨u, ran, there⟩ := ih others (some e) (v.note (.triedNext m.behaviour.name e.text))
        refine ⟨u, ran, ?_⟩
        rw [if_pos rfl, Trail.deliveries_all_cons, there, ← List.append_assoc, ← here]
        rfl
      · refine ⟨v, rfl, ?_⟩
        rw [if_pos rfl, Trail.deliveries_all_cons, Trail.deliveries_all_nil, List.append_nil, ← here]

theorem explains_tried {b : Behaviour σ} {ms : List (Traced σ)}
    (explained : ∀ m ∈ ms, m.Explained made c r) {v w : World σ}
    (kept : v.deliveries = w.deliveries)
    (run : b.handle c r w = firstSuccess c r (ms.map behaviour) none v) :
    (Trail.tried (attempts c r ms v)).Explains made r w (b.guarded c r w) := by
  obtain ⟨u, ran, delivered⟩ := firstSuccess_attempts explained none v
  have answer : b.guarded c r w = (Trail.lastAnswer (.ok ()) (attempts c r ms v), u) := by
    rw [guarded_eq_fence, run, ran]
    exact fence_ofResult _ _ _
  rw [answer]
  constructor
  · exact Trail.accounts_tried fun x hx => (told_attempts x hx).accounts explained
  · rw [Trail.deliveries_tried, ← kept]
    exact delivered
  · exact made_callsEach told_attempts explained

theorem explained_failover {ms : List (Traced σ)} (explained : ∀ m ∈ ms, m.Explained made c r) :
    (failover c r ms).Explained made c r where
  answers p := anyEnabled_answers (answers_members explained) p
  run _ := explains_tried explained rfl rfl

theorem explained_pool {ms : List (Traced σ)} (explained : ∀ m ∈ ms, m.Explained made c r) :
    (pool c r ms).Explained made c r := by
  refine ⟨fun p => anyEnabled_answers (answers_members explained) p, fun w => ?_⟩
  cases ms with
  | nil =>
    have tried : (pool c r []).trail w = .tried (attempts c r [] w) := by
      simp [pool, rotate, attempts]
    rw [tried]
    exact explains_tried explained (Eq.refl w.deliveries) rfl
  | cons m rest =>
    have rotated : ∀ n ∈ rotate (w.draw (m :: rest).length).1 (m :: rest), n.Explained made c r :=
      fun n hn => explained n (mem_rotate.mp hn)
    refine explains_tried rotated rfl ?_
    rw [← rotate_map]
    simp [pool, Behaviour.pool]

theorem explained_routed {g : Guard σ} {m : Traced σ} (explained : m.Explained made c r)
    (calm : ∀ w p, (g.isMatch c r w).1 ≠ .error p) : (routed c r g m).Explained made c r := by
  refine ⟨explained.answers, fun w => ?_⟩
  have ran := guarded_routed g m.behaviour c r w
  simp only [routed, ran]
  have comes := calm w
  have kept : (g.isMatch c r w).2.deliveries = w.deliveries := rfl
  by_cases marked : g.matched = true
  · simp only [if_pos marked]
    exact explained.run w
  · simp only [if_neg marked]
    rcases h : g.isMatch c r w with ⟨p | _ | _, v⟩ <;> rw [h] at kept comes
    · exact absurd rfl (comes p)
    · exact Trail.explains_nothing kept
    · exact (explained.run v).around kept rfl

theorem explained_recovered (recovery : Recovery σ) {m : Traced σ}
    (explained : m.Explained made c r) : (recovered recovery m).Explained made c r := by
  refine ⟨explained.answers, fun w => ?_⟩
  have here := explained.run w
  have ran := guarded_recovered recovery m.behaviour c r w
  simp only [recovered, ran]
  rcases answer : m.behaviour.guarded c r w with ⟨e | u, v⟩ <;> rw [answer] at here
  · refine here.around rfl ?_
    cases recovery <;> rfl
  · exact here

theorem explained_metered (i : MeterId) {m : Traced σ} (explained : m.Explained made c r) :
    (metered c r i m).Explained made c r := by
  refine ⟨explained.answers, fun w => ?_⟩
  have enabled := explained.answers.enabled
  cases on : m.behaviour.takes c r.level with
  | false =>
    rw [on] at enabled
    have ran : (Behaviour.metered i m.behaviour).guarded c r w = (.ok (), w.tick i .filtered) := by
      rw [guarded_eq_fence]
      simp only [Behaviour.metered, enabled]
      rfl
    simp only [metered, ran, on]
    exact Trail.explains_nothing rfl
  | true =>
    rw [on] at enabled
    have here := explained.run w
    have ran := guarded_metered enabled i w
    simp only [metered, ran, on, if_true]
    rcases answer : m.behaviour.guarded c r w with ⟨e | u, v⟩ <;> rw [answer] at here
    · exact here.around rfl rfl
    · exact here.around rfl rfl

theorem explained_firstMatch {rs : List (Guard σ × Traced σ)}
    (explained : ∀ x ∈ rs, x.2.Explained made c r)
    (calm : ∀ x ∈ rs, ∀ w p, (x.1.isMatch c r w).1 ≠ .error p) :
    (firstMatch c r rs).Explained made c r := by
  constructor
  · refine fun p => anyEnabled_answers (fun b hb => ?_) p
    obtain ⟨route, hr, rfl⟩ := List.mem_map.mp hb
    obtain ⟨x, hx, rfl⟩ := List.mem_map.mp hr
    exact (explained x hx).answers
  · intro w
    simp only [firstMatch]
    induction rs generalizing w with
    | nil => exact Trail.explains_nothing rfl
    | cons x rest ih =>
      obtain ⟨g, m⟩ := x
      obtain ⟨first, others⟩ := List.forall_mem_cons.mp explained
      obtain ⟨calms, calm⟩ := List.forall_mem_cons.mp calm
      have comes := calms w
      have kept : (g.isMatch c r w).2.deliveries = w.deliveries := rfl
      rw [List.map_cons, guarded_eq_fence, handle_firstMatch_cons, winner]
      rcases h : g.isMatch c r w with ⟨p | _ | _, v⟩ <;> rw [h] at kept comes
      · exact absurd rfl (comes p)
      · exact (ih others calm v).around kept rfl
      · dsimp only
        rw [first.answers.enabled]
        cases on : m.behaviour.takes c r.level with
        | false => exact Trail.explains_nothing kept
        | true =>
          have there := ((explained_routed first calms).run v).around kept rfl
          rw [if_pos rfl, fence_ofResult]
          exact there

theorem explained_hooked {h : Hooks} (plain : h.onEnabled = none ∧ h.onHandle = none) {m : Traced σ}
    (explained : m.Explained made c r) : (hooked h m).Explained made c r := by
  obtain ⟨noEnabled, noHandle⟩ := plain
  have same : (Behaviour.hooked h m.behaviour).guarded c r = m.behaviour.guarded c r := by
    funext w
    simp only [guarded_eq_fence, Behaviour.hooked, noHandle]
  constructor
  · intro p
    simp only [hooked, Behaviour.hooked, noEnabled]
    exact explained.answers p
  · intro w
    simp only [hooked, same]
    exact explained.run w

end
end Traced

namespace Sink

def Calm (s : Sink σ) : Prop := ∀ p ∈ s.parts, p.Calm

def Calls (s : Sink σ) (c : Context) (r : Record) (l : Leaf σ) (answer : Outcome) : Prop :=
  .leaf l ∈ s.parts ∧ ∃ w, (l.behaviour.handle c r w).1 = answer

theorem explained_traced {made : Leaf σ → Outcome → Prop} {c : Context} {r : Record} (s : Sink σ)
    (calm : s.Calm)
    (calls : ∀ l, .leaf l ∈ s.parts → ∀ w, made l (l.behaviour.handle c r w).1) :
    (s.traced c r).Explained made c r := by
  have members : ∀ ms : List (Sink σ),
      (∀ s ∈ ms, s.Calm → (∀ l, .leaf l ∈ s.parts → ∀ w, made l (l.behaviour.handle c r w).1) →
        (s.traced c r).Explained made c r) →
      (∀ p ∈ partsEach ms, p.Calm) →
      (∀ l, .leaf l ∈ partsEach ms → ∀ w, made l (l.behaviour.handle c r w).1) →
      ∀ m ∈ tracedEach c r ms, m.Explained made c r := by
    intro ms ih calm calls m hm
    rw [tracedEach_eq_map] at hm
    obtain ⟨s, hs, rfl⟩ := List.mem_map.mp hm
    exact ih s hs (fun p hp => calm p (mem_parts_each hs hp))
      fun l hl => calls l (mem_parts_each hs hl)
  induction s using induction with
  | leaf l =>
    have here : .leaf l ∈ (Sink.leaf l).parts := List.mem_cons_self
    exact Traced.explained_leaf l (calm _ here c r.level) (calls l here)
  | spread ms ih => exact Traced.explained_fanout (members ms ih calm calls)
  | failover ms ih => exact Traced.explained_failover (members ms ih calm calls)
  | pool ms ih => exact Traced.explained_pool (members ms ih calm calls)
  | routed g s ih =>
    obtain ⟨here, inner⟩ := List.forall_mem_cons.mp calm
    have next := ih inner fun l hl => calls l (List.mem_cons_of_mem _ hl)
    exact Traced.explained_routed next fun w p => here c r w p
  | firstMatch rs ih =>
    rw [traced, tracedRoutes_eq_map]
    apply Traced.explained_firstMatch
    · intro x hx
      obtain ⟨y, hy, rfl⟩ := List.mem_map.mp hx
      exact ih y hy (fun p hp => calm p (mem_parts_routes hy hp))
        fun l hl => calls l (mem_parts_routes hy hl)
    · intro x hx w p
      obtain ⟨y, hy, rfl⟩ := List.mem_map.mp hx
      exact calm (.guard y.1) (guard_mem_parts_routes hy) c r w p
  | recovered recovery s ih =>
    obtain ⟨_, inner⟩ := List.forall_mem_cons.mp calm
    exact Traced.explained_recovered recovery
      (ih inner fun l hl => calls l (List.mem_cons_of_mem _ hl))
  | metered m s ih =>
    obtain ⟨_, inner⟩ := List.forall_mem_cons.mp calm
    exact Traced.explained_metered m (ih inner fun l hl => calls l (List.mem_cons_of_mem _ hl))
  | hooked h s ih =>
    obtain ⟨here, inner⟩ := List.forall_mem_cons.mp calm
    exact Traced.explained_hooked here (ih inner fun l hl => calls l (List.mem_cons_of_mem _ hl))

theorem explains_trail {s : Sink σ} (calm : s.Calm) (c : Context) (r : Record) (w : World σ) :
    (s.trail c r w).Explains (s.Calls c r) r w (s.behaviour.guarded c r w) := by
  have explained : (s.traced c r).Explained (s.Calls c r) c r :=
    explained_traced s calm fun l hl u => ⟨hl, u, rfl⟩
  have run := explained.run w
  rw [behaviour_traced] at run
  exact run

theorem answers_of_calm {s : Sink σ} (calm : s.Calm) (c : Context) (r : Record) :
    s.behaviour.Answers c r.level := by
  have explained : (s.traced c r).Explained (s.Calls c r) c r :=
    explained_traced s calm fun l hl u => ⟨hl, u, rfl⟩
  have answers := explained.answers
  rw [behaviour_traced] at answers
  exact answers

/-- Inside a recovery a calm tree calls its leaves as its trail tells, answers well exactly when no
failure stands, and else reports what the trail has to report: failures of leaves that were called, in
the order of the calls, a panic under the name of the leaf. A fan-out hands the record to its enabled
members one after the other, whatever the members before have done. -/
theorem failures_reported {s : Sink σ} (calm : s.Calm) (recovery : Recovery σ) (c : Context)
    (r : Record) (w : World σ) :
    let t := s.trail c r w
    let run := (Sink.recovered recovery s).handle c r w
    (run.2.deliveries.toList = w.deliveries.toList ++ t.deliveries r ∧
      ∀ x ∈ t.calls, s.Calls c r x.1 x.2) ∧
    (run.1 = .fine ∧ ¬ t.Stands ∨
      ∃ e, run.1 = .failed e ∧ t.Stands ∧ e.leaves = t.reported.flatMap SinkError.leaves) ∧
    List.Sublist t.reported t.failed ∧
    ∀ ms : List (Sink σ), (∀ m ∈ ms, m.Calm) →
      ((Sink.spread ms).handle c r w).2 =
        ((ms.map behaviour).filter (Behaviour.takes c r.level)).foldl (Behaviour.handed c r) w := by
  intro t run
  have explains := explains_trail calm c r w
  have fine : ∀ v, s.behaviour.guarded c r w = (.ok (), v) → run = (.fine, v) := by
    intro v answer
    simp only [run, handle, behaviour, Behaviour.recovered, answer]
  have failed : ∀ e v, s.behaviour.guarded c r w = (.error e, v) →
      run = (.failed e, recovery.run c r e v) := by
    intro e v answer
    simp only [run, handle, behaviour, Behaviour.recovered, answer]
  have accounts := explains.accounts
  have delivers := explains.delivers
  refine ⟨⟨?_, explains.calls⟩, ?_, t.reported_sublist_failed, ?_⟩
  · rw [← delivers]
    rcases answer : s.behaviour.guarded c r w with ⟨e | u, v⟩
    · rw [failed e v answer]
      cases recovery <;> rfl
    · rw [fine v answer]
  · rcases answer : s.behaviour.guarded c r w with ⟨e | u, v⟩ <;> rw [answer] at accounts
    · rw [failed e v answer]
      exact .inr ⟨e, rfl, accounts⟩
    · rw [fine v answer]
      exact .inl ⟨rfl, accounts.1⟩
  · intro ms calms
    have answers : ∀ b ∈ behaviours ms, b.Answers c r.level := by
      intro b hb
      rw [behaviours_eq_map] at hb
      obtain ⟨m, hm, rfl⟩ := List.mem_map.mp hb
      exact answers_of_calm (calms m hm) c r
    have world := Traced.offerAll_world answers w
    rw [← behaviours_eq_map, ← world, handle, behaviour]
    simp only [Behaviour.fanout]
    rcases Behaviour.offerAll c r (behaviours ms) w with ⟨_ | _, v⟩ <;> rfl

theorem failures_reported_failover :
    let leaf := fun (name : String) (answer : Outcome) => Sink.leaf (σ := Unit)
      ⟨name, .empty, .custom (fun _ _ _ => .ok true) fun _ _ _ s => (answer, s)⟩
    let absorbed := Sink.failover [leaf "a" (.failed (.other "x")), leaf "b" .fine]
    let down := Sink.failover [leaf "d" (.failed (.io "y")), leaf "e" (.failed (.io "z"))]
    let s := Sink.fanout [absorbed, .metered 0 (leaf "c" (.panicked (.text "p"))), down]
    let r : Record := ⟨⟨0, 0⟩, .info, "m", []⟩
    s.Calm ∧ ∃ e,
      ((Sink.recovered .logging s).handle .background r (.start () fun _ => 0)).1 = .failed e ∧
      e.leaves = [.panic "c" "p", .io "z"] := by
  intro leaf absorbed down s r
  have calm : s.Calm := by
    intro p hp
    simp only [s, absorbed, down, leaf, fanout, flatten, fanoutMembers?, parts, partsEach,
      List.flatMap_cons, List.flatMap_nil, Option.getD_none, List.append_nil, List.cons_append,
      List.nil_append, List.mem_cons, List.not_mem_nil, or_false] at hp
    rcases hp with rfl | rfl | rfl | rfl | rfl | rfl
    all_goals first | exact fun _ _ _ same => by cases same | trivial
  obtain ⟨_, answer, _⟩ := failures_reported calm .logging .background r (.start () fun _ => 0)
  refine ⟨calm, ?_⟩
  rcases answer with ⟨fine, _⟩ | ⟨e, failed, _, leaves⟩
  · cases fine
  · exact ⟨e, failed, leaves.trans rfl⟩

end Sink
end LogTree
