import LogTree.Proofs.Configured

/-!
Trees whose leaves are metered one by one. A meter of a leaf ticks exactly when the leaf is called, so
a run of such a tree makes one tick for each delivery, in the same order, and it makes the deliveries
that the tree without meters makes.
-/
namespace LogTree
open Config
variable {σ : Type} {number : String → MeterId}

/-- With every delivery the meter of its sink has counted one record, and nothing else was counted. -/
def World.InStep (number : String → MeterId) (w v : World σ) : Prop :=
  ∃ new, v.deliveries.toList = w.deliveries.toList ++ new ∧
    v.ticks.toList = w.ticks.toList ++ new.map fun d => (number d.sink, .handled)

namespace World

theorem inStep_of_eq {w v : World σ} (deliveries : v.deliveries = w.deliveries)
    (ticks : v.ticks = w.ticks) : InStep number w v :=
  ⟨[], by simp [deliveries], by simp [ticks]⟩

theorem InStep.trans {u v w : World σ} (first : InStep number u v) (second : InStep number v w) :
    InStep number u w := by
  obtain ⟨ds, made, counted⟩ := first
  obtain ⟨es, made', counted'⟩ := second
  refine ⟨ds ++ es, ?_, ?_⟩
  · rw [made', made, List.append_assoc]
  · rw [counted', counted, List.map_append, List.append_assoc]

theorem passage_inStep : Passage (InStep (σ := σ) number) where
  refl _ := inStep_of_eq rfl rfl
  trans := InStep.trans
  note _ _ := inStep_of_eq rfl rfl
  draw _ _ := inStep_of_eq rfl rfl

theorem InStep.ticks {w v : World σ} (step : InStep number w v) {new : List Delivery}
    (made : v.deliveries.toList = w.deliveries.toList ++ new) :
    v.ticks.toList = w.ticks.toList ++ new.map fun d => (number d.sink, .handled) := by
  obtain ⟨ds, made', counted⟩ := step
  rwa [List.append_cancel_left (made.symm.trans made')]

end World

namespace Sink

/-- Every leaf stands behind the meter of its name, there are no other meters and no hooks, and no leaf
runs code of its own. -/
inductive Metered (number : String → MeterId) : Sink σ → Prop where
  | leaf {l : Leaf σ} : (∀ e h, l.kind ≠ .custom e h) →
    Metered number (.metered (number l.name) (.leaf l))
  | spread {ms : List (Sink σ)} : (∀ s ∈ ms, Metered number s) → Metered number (.spread ms)
  | failover {ms : List (Sink σ)} : (∀ s ∈ ms, Metered number s) → Metered number (.failover ms)
  | pool {ms : List (Sink σ)} : (∀ s ∈ ms, Metered number s) → Metered number (.pool ms)
  | routed {g : Guard σ} {t : Sink σ} : Metered number t → Metered number (.routed g t)
  | firstMatch {rs : List (Guard σ × Sink σ)} :
    (∀ r ∈ rs, Metered number r.2) → Metered number (.firstMatch rs)
  | recovered {recovery : Recovery σ} {s : Sink σ} :
    Metered number s → Metered number (.recovered recovery s)

namespace Metered

theorem members {s : Sink σ} (metered : Metered number s) : ∀ t ∈ s.members, Metered number t := by
  cases metered with
  | spread each => exact each
  | leaf plain => exact List.forall_mem_singleton.mpr (.leaf plain)
  | failover each => exact List.forall_mem_singleton.mpr (.failover each)
  | pool each => exact List.forall_mem_singleton.mpr (.pool each)
  | routed target => exact List.forall_mem_singleton.mpr (.routed target)
  | firstMatch each => exact List.forall_mem_singleton.mpr (.firstMatch each)
  | recovered next => exact List.forall_mem_singleton.mpr (.recovered next)

theorem fanout {ms : List (Sink σ)} (each : ∀ s ∈ ms, Metered number s) :
    Metered number (Sink.fanout ms) := by
  have flat : ∀ t ∈ flatten ms, Metered number t := by
    intro t ht
    rw [flatten_eq_flatMap] at ht
    obtain ⟨s, hs, ht⟩ := List.mem_flatMap.mp ht
    exact (each s hs).members t ht
  by_cases one : (flatten ms).length = 1
  · obtain ⟨s, hs⟩ := List.length_eq_one_iff.mp one
    rw [fanout_single hs]
    exact flat s (hs ▸ List.mem_cons_self)
  · rw [fanout_many one]
    exact .spread flat

theorem router {first : Bool} {rs : List (Guard σ × Sink σ)} (each : ∀ r ∈ rs, Metered number r.2) :
    Metered number (Sink.router first rs) := by
  cases first with
  | true =>
    refine .firstMatch fun r hr => ?_
    obtain ⟨x, hx, rfl⟩ := List.mem_map.mp hr
    exact each x hx
  | false =>
    refine .fanout fun s hs => ?_
    obtain ⟨r, hr, rfl⟩ := List.mem_map.mp hs
    exact .routed (each r hr)

theorem rescope {s : Sink σ} (metered : Metered number s) (f : Scope → Scope) :
    Metered number (s.rescope f) := by
  have mapped : ∀ ms : List (Sink σ), (∀ s ∈ ms, Metered number (s.rescope f)) →
      ∀ t ∈ rescopeEach f ms, Metered number t := by
    intro ms each t ht
    rw [rescopeEach_eq_map] at ht
    obtain ⟨s, hs, rfl⟩ := List.mem_map.mp ht
    exact each s hs
  induction metered with
  | @leaf l plain =>
    have moved : ∀ e h, (l.rescope f).kind ≠ .custom e h := plain
    exact .leaf moved
  | spread _ ih => exact .fanout (mapped _ ih)
  | failover _ ih => exact .failover (mapped _ ih)
  | pool _ ih => exact .pool (mapped _ ih)
  | routed _ ih => exact .routed ih
  | recovered _ ih => exact .recovered ih
  | @firstMatch rs _ ih =>
    rw [Sink.rescope, rescopeRoutes_eq_map, firstMatchOf, List.map_map]
    refine .firstMatch fun r hr => ?_
    obtain ⟨x, hx, rfl⟩ := List.mem_map.mp hr
    exact ih x hx

/-- An enabled leaf is called once and counted once. -/
theorem within_leaf {l : Leaf σ} (plain : ∀ e h, l.kind ≠ .custom e h) {c : Context} {r : Record}
    (asked : l.enabled c r.level = .ok true) :
    (Sink.metered (number l.name) (.leaf l)).behaviour.Within (World.InStep number) c r := by
  intro w
  have enabled : l.behaviour.enabled c r.level = .ok true := asked
  have answer : ∃ v, l.behaviour.handle c r w = (.fine, v) ∧
      v.deliveries = w.deliveries.push ⟨l.name, l.scope, r, l.buffer?⟩ ∧ v.ticks = w.ticks := by
    let delivered := w.deliver ⟨l.name, l.scope, r, l.buffer?⟩
    cases kind : l.kind with
    | memory least buffer =>
      exact ⟨delivered, by simp only [Leaf.behaviour, Leaf.react, kind, delivered], rfl, rfl⟩
    | log least =>
      let noted := delivered.note (.logged r.level l.name (l.renderAttrs r) r.message)
      exact ⟨noted, by simp only [Leaf.behaviour, Leaf.react, kind, noted, delivered], rfl, rfl⟩
    | custom e h => exact absurd kind (plain e h)
  obtain ⟨v, fine, made, counted⟩ := answer
  have handled : (Sink.metered (number l.name) (.leaf l)).behaviour.handle c r w =
      (.fine, v.tick (number l.name) .handled) := by
    simp only [Sink.behaviour, Behaviour.metered, enabled, Behaviour.guarded, fine]
  rw [handled]
  exact ⟨[⟨l.name, l.scope, r, l.buffer?⟩], by simp [World.tick, made],
    by simp [World.tick, counted]⟩

/-- A tree that is asked before it is handed a record counts as it delivers. -/
theorem within {s : Sink σ} (metered : Metered number s) {c : Context} {r : Record}
    (asked : s.behaviour.enabled c r.level = .ok true) :
    s.behaviour.Within (World.InStep number) c r := by
  have course : Course (World.InStep (σ := σ) number) := World.passage_inStep.course
  have searches : ∀ (g : Guard σ) w, World.InStep number w (g.isMatch c r w).2 :=
    fun _ _ => World.inStep_of_eq rfl rfl
  have members : ∀ ms : List (Sink σ),
      (∀ s ∈ ms, s.behaviour.enabled c r.level = .ok true →
        s.behaviour.Within (World.InStep number) c r) →
      ∀ b ∈ behaviours ms, b.enabled c r.level = .ok true → b.Within (World.InStep number) c r := by
    intro ms each b hb check
    rw [behaviours_eq_map] at hb
    obtain ⟨s, hs, rfl⟩ := List.mem_map.mp hb
    exact each s hs check
  induction metered with
  | leaf plain => exact within_leaf plain asked
  | spread _ ih => exact Behaviour.within_fanout course (members _ ih)
  | failover _ ih => exact Behaviour.within_firstSuccess course (members _ ih) none
  | pool _ ih => exact Behaviour.within_pool course (members _ ih)
  | routed _ ih => exact Behaviour.within_routed course (searches _) (ih asked)
  | firstMatch _ ih =>
    rw [Sink.behaviour, routeBehaviours_eq_map]
    refine Behaviour.within_firstMatch course (fun route _ => searches route.1) ?_ ?_
    · exact fun _ _ _ => World.inStep_of_eq rfl rfl
    · intro route hr check
      obtain ⟨x, hx, rfl⟩ := List.mem_map.mp hr
      exact ih x hx check
  | @recovered recovery _ _ ih =>
    refine Behaviour.within_recovered course (fun v e => ?_) (ih asked)
    cases recovery <;> exact World.inStep_of_eq rfl rfl

end Metered
end Sink

theorem Behaviour.serves_metered {deliver : String → Delivery} {c : Context} {r : Record}
    {accepts : Bool} {reach : Reach} {b : Behaviour σ} (m : MeterId)
    (serves : Serves deliver c r accepts reach b) :
    Serves deliver c r accepts reach (metered m b) where
  enabled := serves.enabled
  handle yes w := by
    obtain ⟨v, fine, follows⟩ := serves.guarded yes w
    have enabled : b.enabled c r.level = .ok true := yes ▸ serves.enabled
    refine ⟨v.tick m .handled, by simp only [metered, enabled, fine], ?_⟩
    exact ⟨follows.deliveries, follows.starts⟩
  silent := serves.silent

def meteredAt (number : String → MeterId) (leafAt : String → Leaf σ) (name : String) : Sink σ :=
  .metered (number name) (.leaf (leafAt name))

section
variable {leafAt : String → Leaf σ}

theorem Config.Node.metered_place (n : Node)
    (ends : ∀ name ∈ n.references, Sink.Metered number (meteredAt number leafAt name)) :
    Sink.Metered number (n.place (meteredAt number leafAt)) := by
  induction n using induction with
  | sink name =>
    rw [place]
    exact ends name List.mem_cons_self
  | group strategy members ih =>
    have each : ∀ s ∈ placeEach (meteredAt number leafAt) members, Sink.Metered number s := by
      rw [placeEach_eq_map]
      intro s hs
      obtain ⟨n, hn, rfl⟩ := List.mem_map.mp hs
      exact ih n hn fun name h => ends name (mem_references_of_member hn h)
    cases strategy with
    | fanout => rw [place]; exact .fanout each
    | failover => rw [place]; exact .failover each
    | pool => rw [place]; exact .pool each
  | router routes first ih =>
    rw [place, placeRoutes_eq_map]
    refine .router fun r hr => ?_
    obtain ⟨x, hx, rfl⟩ := List.mem_map.mp hr
    exact ih x hx fun name h => ends name (mem_references_of_target hx h)

theorem Config.Blueprint.metered_treeOver {b : Blueprint}
    (ends : ∀ name ∈ b.root.references, Sink.Metered number (meteredAt number leafAt name)) :
    Sink.Metered number (b.treeOver (meteredAt number leafAt)) := by
  have root := b.root.metered_place ends
  rw [treeOver]
  split
  · exact .recovered root
  · exact root

theorem Leaf.Plain.metered {name : String} {least? : Option Level}
    (plain : (leafAt name).Plain least?) (named : (leafAt name).name = name) :
    Sink.Metered number (meteredAt number leafAt name) := by
  obtain ⟨_, least, _, kind⟩ := plain
  have ends : Sink.Metered number
      (.metered (number (leafAt name).name) (.leaf (leafAt name)) : Sink σ) := by
    refine .leaf fun e h custom => ?_
    rcases kind with kind | ⟨b, kind⟩ <;> rw [kind] at custom <;> cases custom
  rwa [named] at ends

/-- A call on a metered tree makes the deliveries that the configuration says, and counts them. -/
theorem Call.log_metered {b : Blueprint} (number : String → MeterId)
    (plain : ∀ name ∈ b.root.references, (leafAt name).Plain (b.least? name))
    (named : ∀ name ∈ b.root.references, (leafAt name).name = name) (q : Call) (w : World σ) :
    ∃ v, q.log (b.treeOver (meteredAt number leafAt)) w = (.fine, v) ∧
      w.Follows (deliveryTo leafAt q.scope q.record) (b.reach q.view) v ∧ w.InStep number v := by
  have fresh : ∀ name ∈ b.root.references, Sink.Built Part.Fresh (meteredAt number leafAt name) :=
    fun name h => .metered trivial (.leaf (plain name h).scope)
  have ends := fun name h => Behaviour.serves_metered (number name)
    ((plain name h).serves q.move .background q.record)
  obtain ⟨v, fine, follows⟩ := log_follows_over fresh ends w
  refine ⟨v, fine, follows, ?_⟩
  have metered : Sink.Metered number (b.treeOver (meteredAt number leafAt)) :=
    Blueprint.metered_treeOver fun name h => (plain name h).metered (named name h)
  rw [log_eq (b.fresh_treeOver fresh)] at fine
  split at fine
  · cases fine
  · obtain rfl : w = v := congrArg Prod.snd fine
    exact World.inStep_of_eq rfl rfl
  · rename_i asked
    have step := (metered.rescope q.move).within (c := .background) (r := q.record) asked w
    rwa [fine] at step

end

theorem Dict.get?_mapValues {α β : Type} (d : Dict α) (f : String → α → β) (key : String) :
    (d.mapValues f).get? key = (d.get? key).map (f key) := by
  rw [get?, get?, mapValues, List.find?_map, Option.map_map, Option.map_map]
  have same : ((fun e => e.1 == key) ∘ fun e : String × α => (e.1, f e.1 e.2)) =
      fun e => e.1 == key := rfl
  rw [same]
  cases found : d.entries.find? fun e => e.1 == key with
  | none => rfl
  | some e =>
    obtain rfl : e.1 = key := by simpa using List.find?_some found
    rfl

theorem Dict.isSome_get? {α : Type} {d : Dict α} {key : String} :
    (d.get? key).isSome = true ↔ key ∈ d.keys := by
  rw [← contains_eq_isSome, contains, keys, List.any_eq_true, List.mem_map]
  exact exists_congr fun e => and_congr_right fun _ => beq_iff_eq

namespace Registry

theorem name_leafAt (next : BufferId) (specs : List SinkSpec) (name : String) :
    (leafAt next specs name : Leaf σ).name = name := by
  rw [leafAt]
  split
  · rename_i s i found
    have named : s.name = name := by simpa using List.find?_some found
    cases kind : s.sinkType <;> simp [leafOf, kind, named]
  · rfl

theorem sorted_names (g : Registry σ) : g.names.Pairwise (· < ·) :=
  List.pairwise_map.mpr g.sinks.sorted

theorem names_mapLeaves (g : Registry σ) (f : String → Sink σ → Sink σ) :
    (g.mapLeaves f).names = g.names := by
  simp [names, mapLeaves, Dict.mapValues, Dict.keys]

theorem createAll_within {R : World σ → World σ → Prop} (course : Course R)
    (specs : List SinkSpec) (next : BufferId) (g : Registry σ) (w : World σ) :
    R w (createAll next g specs w).2 := by
  induction specs generalizing next g w with
  | nil => exact course.refl w
  | cons s rest ih =>
    rw [createAll]
    split
    · exact course.refl w
    · exact course.trans (course.note w (.leafCreated s.name) rfl) (ih _ _ _)

theorem build_within {R : World σ → World σ → Prop} (course : Course R) (g : Registry σ)
    (b : Blueprint) (w : World σ) : R w (g.build b w).2 := by
  rw [build]
  split
  · exact course.refl w
  · exact course.note w (.treeBuilt g.size) rfl

theorem memory_createAll {specs : List SinkSpec} {next : BufferId} {g h : Registry σ}
    {w v : World σ} (all : createAll next g specs w = (.ok h, v)) {name : String}
    (held : (h.memory? name).isSome = true) :
    (g.memory? name).isSome = true ∨ ∃ s ∈ specs, s.name = name ∧ s.sinkType = .memory := by
  induction specs generalizing next g w with
  | nil =>
    obtain ⟨same, _⟩ := Prod.mk.inj all
    rw [← Except.ok.inj same] at held
    exact .inl held
  | cons s rest ih =>
    rw [createAll] at all
    split at all
    · cases (Prod.mk.inj all).1
    · rename_i g' created
      rcases ih all with before | ⟨t, ht, found⟩
      · rw [create] at created
        split at created
        · cases created
        · cases kind : s.sinkType with
          | log =>
            rw [kind] at created
            obtain rfl := Except.ok.inj created
            exact .inl before
          | memory =>
            rw [kind] at created
            obtain rfl := Except.ok.inj created
            rw [memory?, Dict.get?_insert] at before
            split at before
            · rename_i same
              exact .inr ⟨s, List.mem_cons_self, same, kind⟩
            · exact .inl before
      · exact .inr ⟨t, List.mem_cons_of_mem s ht, found⟩

structure Made (next : BufferId) (b : Blueprint) (g : Registry σ) : Prop where
  names : g.names.Perm (b.sinks.map SinkSpec.name)
  holds : ∀ x ∈ b.sinks.zipIdx next, g.Holds x.1 x.2
  memory : ∀ s ∈ b.sinks, s.sinkType = .log → g.memory? s.name = none

theorem ofBlueprint_made {b : Blueprint} (number : String → MeterId)
    (distinct : (b.sinks.map SinkSpec.name).Nodup) (next : BufferId) (w : World σ) :
    ∃ g v, ofBlueprint next b w = (.ok g, v) ∧ w.Adds [] w.starts v ∧ w.InStep number v ∧
      g.Made next b := by
  obtain ⟨g, v, all, adds, held, others⟩ :=
    createAll_ok distinct next (g := .empty) (fun _ _ => rfl) w
  have step : w.InStep number (createAll next .empty b.sinks w).2 :=
    createAll_within World.passage_inStep.course b.sinks next .empty w
  rw [all] at step
  refine ⟨g, v, all, adds, step, ?_, held, ?_⟩
  · have once : g.names.Nodup :=
      g.sorted_names.imp fun {a b} (less : a < b) (same : a = b) =>
        String.lt_irrefl b (same ▸ less)
    refine (List.perm_ext_iff_of_nodup once distinct).mpr fun name => ?_
    constructor
    · intro h
      by_contra absent
      have there : (g.get? name).isSome = true := Dict.isSome_get?.mpr h
      rw [(others name absent).1] at there
      contradiction
    · intro h
      obtain ⟨s, hs, rfl⟩ := List.mem_map.mp h
      obtain ⟨i, hi⟩ := exists_number next hs
      refine Dict.isSome_get?.mp ?_
      have there : g.sinks.get? s.name = some _ := (held _ hi).1
      rw [there]
      rfl
  · intro s hs log
    rw [← Option.not_isSome_iff_eq_none]
    intro there
    rcases memory_createAll all there with before | ⟨t, ht, same, memory⟩
    · contradiction
    · obtain rfl := List.inj_on_of_nodup_map distinct ht hs same
      rw [log] at memory
      contradiction

end Registry

namespace Config.Blueprint
variable {b : Blueprint}

/-- A valid configuration is built over metered leaves, and nothing is delivered or counted by that. -/
theorem built_metered (valid : b.validate = .ok ()) (number : String → MeterId) (next : BufferId)
    (w : World σ) :
    ∃ g w₁ w₂, Registry.ofBlueprint next b w = (.ok g, w₁) ∧ g.Made next b ∧
      (g.mapLeaves fun name s => .metered (number name) s).build b w₁ =
        (.ok (b.treeOver (meteredAt number (Registry.leafAt next b.sinks))), w₂) ∧
      w.Adds [] w.starts w₂ ∧ w.InStep number w₂ := by
  obtain ⟨g, w₁, made, adds, step, registry⟩ :=
    Registry.ofBlueprint_made number (distinct_of_valid valid) next w
  have known : ∀ name ∈ b.root.references,
      (g.mapLeaves fun name s => .metered (number name) s).get? name =
        some (meteredAt number (Registry.leafAt next b.sinks) name) := by
    intro name h
    have held : g.sinks.get? name = some (.leaf (Registry.leafAt next b.sinks name)) :=
      known_of_valid valid registry.holds name h
    rw [Registry.get?, Registry.mapLeaves, Dict.get?_mapValues, held]
    rfl
  have noted := adds.trans (w₁.adds_note (.treeBuilt (g.mapLeaves fun name s =>
    .metered (number name) s).size))
  rw [adds.starts] at noted
  exact ⟨g, w₁, _, made, registry, b.build_eq_treeOver known w₁, noted,
    step.trans (World.passage_inStep.note _ _)⟩

end Config.Blueprint
end LogTree
