import LogTree.Proofs.Derived
import LogTree.Proofs.Watched

/-!
What meters count. A meter that is watched writes down each of its calls, and each call of the sink
behind it; a run then makes one tick a reading, whatever is around the meters, and the counters are
what the ticks add up to. Main statement: `metered_counts_once`.
-/
namespace LogTree
variable {σ τ ε : Type}

inductive MeterEntry (σ : Type) where
  | behind (meter : MeterId) (next : Sink σ) (context : Context) (record : Record)
    (outcome : Outcome)
  | call (meter : MeterId) (next : Sink σ) (context : Context) (record : Record)
    (answer : Outcome)

/-- The meter itself runs as it does; the sink behind it is watched as well. -/
def Watch.ofMeters : Watch (MeterEntry σ) σ where
  metered m next b := (Behaviour.metered m (b.entered (.behind m next))).entered (.call m next)
  recovered x _ b := .recovered (x.beside fun _ _ _ => []) b

/-- One call of a meter. -/
structure Reading (σ : Type) where
  meter : MeterId
  next : Sink σ
  context : Context
  record : Record
  /-- What came of the sink behind, if it was called. -/
  behind : Option Outcome
  answer : Outcome
  tick : Tick

namespace Reading

def entries (x : Reading σ) : List (MeterEntry σ) :=
  let call := MeterEntry.call x.meter x.next x.context x.record x.answer
  match x.behind with
  | none => [call]
  | some o => [.behind x.meter x.next x.context x.record o, call]

/-- What a call of a meter comes to. -/
inductive Sound : Reading σ → Prop where
  | filtered {m : MeterId} {next : Sink σ} {c : Context} {r : Record} :
    next.enabled c r.level = .ok false → Sound ⟨m, next, c, r, none, .fine, .filtered⟩
  | handled {m : MeterId} {next : Sink σ} {c : Context} {r : Record} :
    next.enabled c r.level = .ok true → Sound ⟨m, next, c, r, some .fine, .fine, .handled⟩
  | failed {m : MeterId} {next : Sink σ} {c : Context} {r : Record} (e : SinkError) :
    next.enabled c r.level = .ok true →
    Sound ⟨m, next, c, r, some (.failed e), .failed e, .failed⟩
  | panicked {m : MeterId} {next : Sink σ} {c : Context} {r : Record} (p : Payload) :
    next.enabled c r.level = .ok true →
    Sound ⟨m, next, c, r, some (.panicked p), .failed (.panic next.name p.message), .failed⟩

end Reading

def Counted (ok : MeterId × Sink σ → Prop) (w v : World σ) (entries : List (MeterEntry σ)) : Prop :=
  ∃ readings : List (Reading σ), (∀ x ∈ readings, x.Sound ∧ ok (x.meter, x.next)) ∧
    entries = readings.flatMap Reading.entries ∧
    v.ticks.toList = w.ticks.toList ++ readings.map fun x => (x.meter, x.tick)

section
variable {ok : MeterId × Sink σ → Prop} {u v w : World σ} {xs ys : List (MeterEntry σ)}

theorem Counted.trans (first : Counted ok u v xs) (second : Counted ok v w ys) :
    Counted ok u w (xs ++ ys) := by
  obtain ⟨before, all, rfl, ticks⟩ := first
  obtain ⟨after, all', rfl, ticks'⟩ := second
  refine ⟨before ++ after, List.forall_mem_append.mpr ⟨all, all'⟩, ?_, ?_⟩
  · rw [List.flatMap_append]
  · rw [ticks', ticks, List.map_append, List.append_assoc]

theorem counted_of_eq (same : v.ticks = w.ticks) : Counted ok w v [] :=
  ⟨[], by simp, rfl, by simp [same]⟩

theorem account_counted (ok : MeterId × Sink σ → Prop) : Account (Counted ok) where
  refl _ := counted_of_eq rfl
  trans := Counted.trans
  note _ _ := counted_of_eq rfl
  draw _ _ := counted_of_eq rfl
  state _ _ := counted_of_eq rfl
  deliver _ _ := counted_of_eq rfl

/-- A call of a meter that ends in a reading. -/
theorem Counted.reading (fits : Counted ok w v xs) {x : Reading σ} (sound : x.Sound)
    (there : ok (x.meter, x.next)) :
    Counted ok w (v.tick x.meter x.tick) (xs ++ x.entries) := by
  apply fits.trans
  refine ⟨[x], List.forall_mem_singleton.mpr ⟨sound, there⟩, ?_, ?_⟩
  · rw [List.flatMap_singleton]
  · simp [World.tick]

end

/-- Whatever the sink behind does, a call of the meter is a reading. -/
theorem mirrored_meter {ok : MeterId × Sink σ → Prop} {m : MeterId} {next : Sink σ}
    (there : ok (m, next)) (answers : ∀ c l, next.behaviour.Answers c l)
    {t : Behaviour (List (MeterEntry σ) × σ)}
    (mirrored : Behaviour.Mirrored (Counted ok) next.behaviour t) :
    Behaviour.Mirrored (Counted ok) (.metered m next.behaviour)
      ((Behaviour.metered m (t.entered (.behind m next))).entered (.call m next)) := by
  have account := account_counted ok
  constructor
  · exact mirrored.name
  · exact mirrored.enabled
  · intro c r w journal
    simp only [Behaviour.entered, Behaviour.metered, mirrored.enabled]
    rcases on : next.behaviour.enabled c r.level with p | _ | _
    · exact absurd on (answers c r.level p)
    · have read := (account.refl w).reading (.filtered on) there
      exact ⟨_, _, _, rfl, rfl, read⟩
    · obtain ⟨o, v, notes, plain, ran, fits⟩ := mirrored.handle c r w journal
      have trail : ∀ a b, journal ++ (notes ++ [a, b]) = journal ++ notes ++ [a] ++ [b] := by simp
      simp only [Behaviour.guarded_eq_fence, plain, ran, mirrored.name]
      cases o with
      | fine =>
        refine ⟨_, _, _, rfl, ?_, fits.reading (.handled on) there⟩
        simp only [Reading.entries, trail]
        rfl
      | failed e =>
        refine ⟨_, _, _, rfl, ?_, fits.reading (.failed e on) there⟩
        simp only [Reading.entries, trail]
        rfl
      | panicked p =>
        have noted := account.noted fits (.panicked next.name p.message)
        refine ⟨_, _, _, rfl, ?_, noted.reading (.panicked p on) there⟩
        simp only [Reading.entries, trail]
        rfl

def Counters.total (k : Counters) : UInt64 := k.handled + k.failed + k.filtered

section
variable {w v : World σ} {readings : List (Reading σ)}

theorem length_by_tick (own : List (Reading σ)) :
    own.length = (own.countP fun x => x.tick = .handled) + (own.countP fun x => x.tick = .failed) +
      own.countP fun x => x.tick = .filtered := by
  induction own with
  | nil => rfl
  | cons x rest ih =>
    simp only [List.length_cons, List.countP_cons, ih]
    cases x.tick <;> simp <;> omega

theorem count_of_readings
    (ticks : v.ticks.toList = w.ticks.toList ++ readings.map fun x => (x.meter, x.tick))
    (m : MeterId) (t : Tick) :
    v.count m t = w.count m t +
      ((readings.filter fun x => x.meter = m).countP fun x => x.tick = t).toUInt64 := by
  have own : (readings.map fun x => (x.meter, x.tick)).countP (fun x => x = (m, t)) =
      (readings.filter fun x => x.meter = m).countP fun x => x.tick = t := by
    rw [List.countP_map, List.countP_filter]
    apply List.countP_congr
    simp [and_comm]
  unfold World.count
  rw [ticks, List.countP_append, own]
  exact UInt64.ofNat_add _ _

theorem total_of_readings
    (ticks : v.ticks.toList = w.ticks.toList ++ readings.map fun x => (x.meter, x.tick))
    (m : MeterId) :
    (v.counters m).total = (w.counters m).total +
      (readings.filter fun x => x.meter = m).length.toUInt64 := by
  have sums : ∀ a b c : Nat, (a + b + c).toUInt64 = a.toUInt64 + b.toUInt64 + c.toUInt64 := by
    intro a b c
    exact (UInt64.ofNat_add _ _).trans (congrArg (· + _) (UInt64.ofNat_add _ _))
  unfold Counters.total World.counters
  simp only [count_of_readings ticks, length_by_tick (readings.filter _), sums]
  ac_rfl

end

inductive Act where
  | handle (context : Context) (record : Record)
  | ask (context : Context) (level : Level)
  | derive (derivation : Derivation)

inductive Reply where
  | handled (outcome : Outcome)
  | told (enabled : Except Payload Bool)
  | derived
  | nobody

structure Operation where
  place : Nat
  act : Act

abbrev Scene (σ τ : Type) := List (Sink σ) × World τ

def Operation.perform (run : Sink σ → Behaviour τ) (op : Operation) (scene : Scene σ τ) :
    Reply × Scene σ τ :=
  match scene.1[op.place]? with
  | none => (.nobody, scene)
  | some s =>
    match op.act with
    | .handle c r =>
      let (o, v) := (run s).handle c r scene.2
      (.handled o, scene.1, v)
    | .ask c level => (.told ((run s).enabled c level), scene)
    | .derive d => (.derived, scene.1 ++ [s.derive d], scene.2)

def performAll (run : Sink σ → Behaviour τ) : List Operation → Scene σ τ → List Reply × Scene σ τ
  | [], scene => ([], scene)
  | op :: rest, scene =>
    let (reply, after) := op.perform run scene
    let (replies, last) := performAll run rest after
    (reply :: replies, last)

theorem world_of_idle {run : Sink σ → Behaviour τ} {ops : List Operation}
    (idle : ∀ op ∈ ops, ∀ c r, op.act ≠ .handle c r) (family : List (Sink σ)) (w : World τ) :
    (performAll run ops (family, w)).2.2 = w := by
  induction ops generalizing family with
  | nil => rfl
  | cons op rest ih =>
    obtain ⟨first, others⟩ := List.forall_mem_cons.mp idle
    have stays : ∃ family', (op.perform run (family, w)).2 = (family', w) := by
      unfold Operation.perform
      cases family[op.place]? with
      | none => exact ⟨family, rfl⟩
      | some s =>
        cases act : op.act with
        | handle c r => exact absurd act (first c r)
        | ask c level => exact ⟨family, rfl⟩
        | derive d => exact ⟨family ++ [s.derive d], rfl⟩
    obtain ⟨family', same⟩ := stays
    simp only [performAll, same]
    exact ih others family'

section
variable {Q : World σ → World σ → List ε → Prop} {ok : Sink σ → Prop}
  {watched : Sink σ → Behaviour (List ε × σ)}

theorem perform_mirrored (account : Account Q) (derives : ∀ s d, ok s → ok (s.derive d))
    (mirrored : ∀ s, ok s → Behaviour.Mirrored Q s.behaviour (watched s)) (op : Operation)
    {family : List (Sink σ)} (all : ∀ s ∈ family, ok s) (w : World σ) (journal : List ε) :
    ∃ reply family' v notes, (∀ s ∈ family', ok s) ∧
      op.perform Sink.behaviour (family, w) = (reply, family', v) ∧
      op.perform watched (family, w.noting journal) =
        (reply, family', v.noting (journal ++ notes)) ∧ Q w v notes := by
  simp only [Operation.perform]
  cases found : family[op.place]? with
  | none =>
    refine ⟨.nobody, family, w, [], all, rfl, ?_, account.refl w⟩
    rw [List.append_nil]
  | some s =>
    have here := all s (List.mem_of_getElem? found)
    cases op.act with
    | handle c r =>
      obtain ⟨o, v, notes, plain, ran, fits⟩ := (mirrored s here).handle c r w journal
      simp only [plain, ran]
      exact ⟨_, _, _, _, all, rfl, rfl, fits⟩
    | ask c level =>
      simp only [(mirrored s here).enabled]
      refine ⟨_, _, _, [], all, rfl, ?_, account.refl w⟩
      rw [List.append_nil]
    | derive d =>
      have joined : ∀ t ∈ family ++ [s.derive d], ok t :=
        List.forall_mem_append.mpr ⟨all, List.forall_mem_singleton.mpr (derives s d here)⟩
      refine ⟨_, _, _, [], joined, rfl, ?_, account.refl w⟩
      rw [List.append_nil]

theorem performAll_mirrored (account : Account Q) (derives : ∀ s d, ok s → ok (s.derive d))
    (mirrored : ∀ s, ok s → Behaviour.Mirrored Q s.behaviour (watched s)) (ops : List Operation)
    {family : List (Sink σ)} (all : ∀ s ∈ family, ok s) (w : World σ) (journal : List ε) :
    ∃ replies family' v notes,
      performAll Sink.behaviour ops (family, w) = (replies, family', v) ∧
      performAll watched ops (family, w.noting journal) =
        (replies, family', v.noting (journal ++ notes)) ∧ Q w v notes := by
  induction ops generalizing family w journal with
  | nil =>
    refine ⟨[], family, w, [], rfl, ?_, account.refl w⟩
    rw [List.append_nil]
    rfl
  | cons op rest ih =>
    obtain ⟨reply, family', v, notes, all', plain, ran, fits⟩ :=
      perform_mirrored account derives mirrored op all w journal
    obtain ⟨replies, last, u, more, plain', ran', fits'⟩ := ih all' v (journal ++ notes)
    rw [List.append_assoc] at ran'
    refine ⟨reply :: replies, last, u, notes ++ more, ?_, ?_, account.trans fits fits'⟩
    · simp only [performAll, plain, plain']
    · simp only [performAll, ran, ran']

end

namespace Sink

/-- A meter of the tree, before what was derived from the sink behind it. -/
def HasMeter (s : Sink σ) (x : MeterId × Sink σ) : Prop :=
  ∃ (next : Sink σ) (ds : List Derivation), (x.1, next) ∈ s.meters ∧ x.2 = ds.foldl derive next

/-- Fan-outs, failovers and pools have the meters of their members. -/
theorem hasMeter_each {ms : List (Sink σ)} {d : Derivation} {x : MeterId × Sink σ}
    (each : ∀ s ∈ ms, x ∈ (s.derive d).meters → s.HasMeter x)
    (hx : x ∈ (ms.map (·.derive d)).flatMap meters) : (failover ms).HasMeter x := by
  rw [List.flatMap_map] at hx
  obtain ⟨s, hs, hx⟩ := List.mem_flatMap.mp hx
  obtain ⟨next, ds, there, same⟩ := each s hs hx
  exact ⟨next, ds, mem_meters_each hs there, same⟩

/-- The meters of a derived tree are those of the tree. -/
theorem hasMeter_of_derive {s : Sink σ} {d : Derivation} {x : MeterId × Sink σ}
    (hx : x ∈ (s.derive d).meters) : s.HasMeter x := by
  induction s using induction generalizing d with
  | leaf l =>
    rw [derive_leaf] at hx
    exact absurd hx List.not_mem_nil
  | spread ms ih =>
    rw [gathered_derive_spread d meters metersEach_eq_flatMap] at hx
    exact hasMeter_each (fun s hs => ih s hs) hx
  | failover ms ih =>
    rw [derive_failover, meters, metersEach_eq_flatMap] at hx
    exact hasMeter_each (fun s hs => ih s hs) hx
  | pool ms ih =>
    rw [derive_pool, meters, metersEach_eq_flatMap] at hx
    exact hasMeter_each (fun s hs => ih s hs) hx
  | routed g t ih =>
    rw [derive_routed] at hx
    exact ih hx
  | firstMatch rs ih =>
    obtain ⟨guard, derived⟩ := derive_firstMatch d rs
    rw [derived, meters, metersTargets_eq_flatMap, List.flatMap_map] at hx
    obtain ⟨r, hr, hx⟩ := List.mem_flatMap.mp hx
    obtain ⟨next, ds, there, same⟩ := ih r hr hx
    exact ⟨next, ds, mem_meters_targets hr there, same⟩
  | recovered x s ih =>
    rw [derive_recovered] at hx
    exact ih hx
  | metered m s ih =>
    rw [derive_metered] at hx
    rcases List.mem_cons.mp hx with rfl | below
    · exact ⟨s, [d], List.mem_cons_self, rfl⟩
    · obtain ⟨next, ds, there, same⟩ := ih below
      exact ⟨next, ds, List.mem_cons_of_mem _ there, same⟩
  | hooked h s ih =>
    rw [derive_hooked] at hx
    exact ih hx

/-- The sinks behind its meters tell their levels, however they are derived. -/
def MetersAnswer (s : Sink σ) : Prop :=
  ∀ x ∈ s.meters, ∀ (ds : List Derivation) (c : Context) (l : Level),
    (ds.foldl derive x.2).behaviour.Answers c l

/-- The meter stands in one of the sinks, or in what was derived from it. -/
def StandsIn (start : List (Sink σ)) (x : MeterId × Sink σ) : Prop := ∃ s ∈ start, s.HasMeter x

def ComesFrom (start : List (Sink σ)) (s : Sink σ) : Prop := ∀ x ∈ s.meters, StandsIn start x

section
variable {start : List (Sink σ)} {s : Sink σ}

theorem comesFrom_start (hs : s ∈ start) : ComesFrom start s :=
  fun x hx => ⟨s, hs, x.2, [], hx, rfl⟩

theorem ComesFrom.derive (there : ComesFrom start s) (d : Derivation) :
    ComesFrom start (s.derive d) := by
  intro x hx
  obtain ⟨next, ds, hn, same⟩ := hasMeter_of_derive hx
  obtain ⟨t, ht, first, ds', hm, same'⟩ := there _ hn
  refine ⟨t, ht, first, ds' ++ ds, hm, ?_⟩
  rw [List.foldl_append, same, ← same']

theorem mirrored_ofMeters (answers : ∀ s ∈ start, s.MetersAnswer) (there : ComesFrom start s) :
    Behaviour.Mirrored (Counted (StandsIn start)) s.behaviour (s.watched .ofMeters) := by
  have account := account_counted (StandsIn start)
  apply mirrored_watched account
  · exact fun x next mirrored => Behaviour.mirrored_recovered account mirrored x
  · intro x hx
    obtain ⟨t, ht, next, ds, hm, same⟩ := there x hx
    apply mirrored_meter (there x hx)
    intro c l
    rw [same]
    exact answers t ht _ hm ds c l

end
/-- Whatever is done with sinks that have meters, each call of a meter is one reading: filtered if the
sink behind it does not take the level, and then that sink is not called and the answer is fine, else
handled or failed as the sink does, where a panic is answered as an error. Each counter of a meter
grows by its own readings of the kind, the three together by one a reading; asking and deriving
change nothing, and what is derived from a meter counts in the same place. -/
theorem metered_counts_once {start : List (Sink σ)} (answers : ∀ s ∈ start, s.MetersAnswer)
    (ops : List Operation) (w : World σ) :
    let plain := performAll behaviour ops (start, w)
    let seen := performAll (watched .ofMeters) ops (start, w.noting [])
    let v := plain.2.2
    (∃ readings : List (Reading σ),
      seen = (plain.1, plain.2.1, v.noting (readings.flatMap Reading.entries)) ∧
      (∀ x ∈ readings, x.Sound ∧ StandsIn start (x.meter, x.next)) ∧
      ∀ m, let own := readings.filter fun x => x.meter = m
        (∀ t, v.count m t = w.count m t + (own.countP fun x => x.tick = t).toUInt64) ∧
        (v.counters m).total = (w.counters m).total + own.length.toUInt64) ∧
    ((∀ op ∈ ops, ∀ c r, op.act ≠ .handle c r) → v = w) ∧
    ∀ (ds : List Derivation) (m : MeterId) (s : Sink σ),
      ds.foldl derive (.metered m s) = .metered m (ds.foldl derive s) := by
  intro plain seen v
  refine ⟨?_, fun idle => world_of_idle idle start w, fun ds m s => derived_metered ds m s⟩
  obtain ⟨replies, family, v', notes, ran, ran', readings, sound, rfl, ticks⟩ :=
    performAll_mirrored (account_counted (StandsIn start)) (fun s d there => there.derive d)
      (fun s there => mirrored_ofMeters answers there) ops (fun s hs => comesFrom_start hs) w []
  have here : plain = (replies, family, v') := ran
  have same : v = v' := congrArg (fun x => x.2.2) here
  refine ⟨readings, ?_, sound, fun m => ?_⟩
  · rw [here, same]
    exact ran'
  · rw [same]
    exact ⟨count_of_readings ticks m, total_of_readings ticks m⟩

theorem metered_counts_once_shared :
    let leaf := fun (name : String) (answer : Outcome) => Sink.leaf (σ := Unit)
      ⟨name, .empty, .custom (fun _ _ level => .ok (.info ≤ level)) fun _ _ _ s => (answer, s)⟩
    let calm := leaf "calm" .fine
    let boom := leaf "boom" (.panicked (.text "disk on fire"))
    let start := [Sink.fanout [.metered 0 calm, .metered 0 (.metered 1 boom)], .metered 0 calm]
    let record := fun level : Level => Record.mk ⟨0, 0⟩ level "m" []
    let ops : List Operation := [⟨0, .handle .background (record .info)⟩,
      ⟨1, .ask .background .debug⟩, ⟨1, .derive (.group "g")⟩,
      ⟨2, .handle .background (record .debug)⟩]
    let w : World Unit := .start () fun _ => 0
    let v := (performAll behaviour ops (start, w)).2.2
    (∀ s ∈ start, s.MetersAnswer) ∧
      (∃ readings : List (Reading Unit), (v.counters 0).total =
        (w.counters 0).total + (readings.filter fun x => x.meter = 0).length.toUInt64) ∧
      v.counters 0 = ⟨1, 1, 1⟩ ∧ v.counters 1 = ⟨0, 1, 0⟩ := by
  intro leaf calm boom start record ops w v
  have tells : ∀ name answer (ds : List Derivation) c l,
      (ds.foldl derive (leaf name answer)).behaviour.Answers c l := by
    intro name answer ds c l
    rw [derived_leaf]
    exact fun p same => by cases same
  have answers : ∀ s ∈ start, s.MetersAnswer := by
    intro s hs x hx ds c l
    have known : x = (0, calm) ∨ x = (0, .metered 1 boom) ∨ x = (1, boom) := by
      rcases List.mem_pair.mp hs with rfl | rfl
      · simpa [fanout, flatten, fanoutMembers?, meters, metersEach, leaf, calm, boom] using hx
      · exact .inl (List.mem_singleton.mp hx)
    rcases known with rfl | rfl | rfl
    · exact tells _ _ ds c l
    · rw [derived_metered]
      exact tells _ _ ds c l
    · exact tells _ _ ds c l
  obtain ⟨⟨readings, _, _, counted⟩, _⟩ := metered_counts_once answers ops w
  exact ⟨answers, ⟨readings, (counted 0).2⟩, rfl, rfl⟩

end Sink
end LogTree
