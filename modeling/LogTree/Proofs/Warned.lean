import LogTree.Config.Warning
import LogTree.Proofs.Gates
import LogTree.Proofs.Metered

/-!
What the warnings about a configuration say of its runs. Where no router is reported, each of them has
a route that asks nothing, and deriving keeps it, so no record is dropped for want of a route. A sink
that is reported as unused is no part of the tree, nor of what is derived from it; every other sink is
one of its leaves. Main statement: `warnings_sound`.
-/
namespace LogTree
open Config
variable {σ : Type}

namespace World

def misses (w : World σ) : List Event := w.events.toList.filter Event.isMiss

theorem misses_note (w : World σ) {e : Event} (other : e.isMiss = false) :
    (w.note e).misses = w.misses := by
  simp [misses, note, other]

theorem course_misses : Course fun w v : World σ => v.misses = w.misses where
  refl _ := rfl
  trans first second := second.trans first
  note w _ other := w.misses_note other
  draw _ _ := rfl

/-- Nothing is delivered or counted, and no record is dropped for want of a route. -/
structure Rests (w v : World σ) : Prop where
  deliveries : v.deliveries = w.deliveries
  ticks : v.ticks = w.ticks
  misses : v.misses = w.misses

theorem course_rests : Course (Rests (σ := σ)) where
  refl _ := ⟨rfl, rfl, rfl⟩
  trans first second :=
    ⟨second.deliveries.trans first.deliveries, second.ticks.trans first.ticks,
      second.misses.trans first.misses⟩
  note w _ other := ⟨rfl, rfl, w.misses_note other⟩
  draw _ _ := ⟨rfl, rfl, rfl⟩

end World

theorem Part.Plain.follows_misses {p : Part σ} (plain : p.Plain) (c : Context) (r : Record) :
    p.Follows (fun w v => v.misses = w.misses) c r False := by
  cases p with
  | leaf l =>
    intro _ w
    simp only [Leaf.behaviour, Leaf.react]
    cases l.kind with
    | memory least buffer => rfl
    | log least => exact World.misses_note _ rfl
    | custom enabled handle => rfl
  | guard g => exact fun _ => rfl
  | recovery recovery =>
    intro w e
    cases recovery with
    | logging => exact w.misses_note rfl
    | custom report => rfl
  | meter m => exact fun _ _ _ => rfl
  | hooks h => exact plain

namespace Sink

def AlwaysRoutes (s : Sink σ) : Prop :=
  ∀ rs ∈ s.routers, ∀ (c : Context) (r : Record) (w : World σ),
    ∃ route ∈ routeBehaviours rs,
      Behaviour.firstMatching c r (routeBehaviours rs) w = (.ok (some route), w)

theorem misses_of_handle {s : Sink σ} (plain : s.Open) (routes : s.AlwaysRoutes) (c : Context)
    (r : Record) (w : World σ) : (s.behaviour.handle c r w).2.misses = w.misses := by
  have missed : ∀ rs ∈ s.routers,
      Behaviour.MayMiss (fun w v => v.misses = w.misses) c r (routeBehaviours rs) := by
    intro rs hr w v none
    obtain ⟨route, _, found⟩ := routes rs hr c r w
    rw [found] at none
    cases none
  exact handle_course World.course_misses False s (fun p hp => (plain p hp).follows_misses c r)
    missed False.elim w

/-- Routes that ask what can be configured, with one that asks nothing. -/
structure CatchAll (rs : List (Guard σ × Sink σ)) : Prop where
  asks : ∀ x ∈ rs, ∃ ps : List PredicateSpec, x.1.predicates = ps.map PredicateSpec.predicate
  last : ∃ x ∈ rs, x.1.predicates = []

namespace CatchAll
variable {rs : List (Guard σ × Sink σ)}

theorem rescope (catches : CatchAll rs) (f : Scope → Scope) :
    CatchAll (rs.map (rescopeRoute f)) where
  asks := List.forall_mem_map.mpr catches.asks
  last := by
    obtain ⟨x, hx, nothing⟩ := catches.last
    exact ⟨rescopeRoute f x, List.mem_map_of_mem hx, nothing⟩

theorem found (catches : CatchAll rs) (c : Context) (r : Record) (w : World σ) :
    ∃ route ∈ routeBehaviours rs,
      Behaviour.firstMatching c r (routeBehaviours rs) w = (.ok (some route), w) := by
  rw [routeBehaviours_eq_map]
  apply Behaviour.firstMatching_found
  · intro route hr
    obtain ⟨x, hx, rfl⟩ := List.mem_map.mp hr
    obtain ⟨ps, asks⟩ := catches.asks x hx
    exact ⟨_, decides_predicates asks c r⟩
  · obtain ⟨x, hx, nothing⟩ := catches.last
    have asks : x.1.predicates = ([] : List PredicateSpec).map PredicateSpec.predicate := nothing
    exact ⟨(x.1, x.2.behaviour), List.mem_map_of_mem hx, decides_predicates asks c r⟩

end CatchAll
end Sink

namespace Config

namespace Node
variable {sinkAt : String → Sink σ}

theorem countDroppingEach_eq_zero {ns : List Node} :
    countDroppingEach ns = 0 ↔ ∀ n ∈ ns, n.countDropping = 0 := by
  induction ns with
  | nil => simp [countDroppingEach]
  | cons n rest ih => simp [countDroppingEach, ih]

theorem countDroppingTargets_eq_zero {rs : List (List PredicateSpec × Node)} :
    countDroppingTargets rs = 0 ↔ ∀ r ∈ rs, r.2.countDropping = 0 := by
  induction rs with
  | nil => simp [countDroppingTargets]
  | cons r rest ih => simp [countDroppingTargets, ih]

theorem exists_catchAll {routes : List (List PredicateSpec × Node)}
    (keeps : (Node.router routes true).dropsUnmatched = false) : ∃ r ∈ routes, r.1 = [] := by
  rw [dropsUnmatched, Bool.not_eq_false'] at keeps
  obtain ⟨r, hr, nothing⟩ := List.any_eq_true.mp keeps
  exact ⟨r, hr, List.isEmpty_iff.mp nothing⟩

theorem catchAll_routes {routes : List (List PredicateSpec × Node)}
    (keeps : (Node.router routes true).dropsUnmatched = false) :
    Sink.CatchAll ((placeRoutes sinkAt routes).map fun r => (r.1.skipping, r.2)) := by
  rw [placeRoutes_eq_map]
  obtain ⟨r, hr, nothing⟩ := exists_catchAll keeps
  constructor
  · exact List.forall_mem_map.mpr (List.forall_mem_map.mpr fun r _ => ⟨r.1, rfl⟩)
  · refine ⟨_, List.mem_map_of_mem (List.mem_map_of_mem hr), ?_⟩
    rw [nothing]
    rfl

/-- A tree in which no router may drop a record becomes one in which every list of routes catches all. -/
theorem catchAll_place (n : Node) (never : n.countDropping = 0)
    (ends : ∀ name ∈ n.references, (sinkAt name).routers = []) :
    ∀ rs ∈ (n.place sinkAt).routers, Sink.CatchAll rs := by
  induction n using induction with
  | sink name =>
    rw [place, ends name List.mem_cons_self]
    exact List.forall_mem_nil _
  | group strategy members ih =>
    rw [countDropping, countDroppingEach_eq_zero] at never
    have each : ∀ rs ∈ (placeEach sinkAt members).flatMap Sink.routers, Sink.CatchAll rs := by
      intro rs hr
      rw [placeEach_eq_map, List.flatMap_map] at hr
      obtain ⟨n, hn, hr⟩ := List.mem_flatMap.mp hr
      exact ih n hn (never n hn) (fun name h => ends name (mem_references_of_member hn h)) rs hr
    cases strategy with
    | fanout =>
      rw [place, Sink.routers_fanout]
      exact each
    | failover | pool =>
      rw [place, Sink.routers, Sink.routersEach_eq_flatMap]
      exact each
  | router routes first ih =>
    rw [countDropping, Nat.add_eq_zero_iff, countDroppingTargets_eq_zero] at never
    obtain ⟨here, below⟩ := never
    rw [place, Sink.routers_router, List.forall_mem_append]
    constructor
    · cases first with
      | false => exact List.forall_mem_nil _
      | true =>
        have keeps : (Node.router routes true).dropsUnmatched = false := by
          cases drops : (Node.router routes true).dropsUnmatched with
          | false => rfl
          | true =>
            rw [drops] at here
            cases here
        rw [if_pos rfl, List.forall_mem_singleton]
        exact catchAll_routes keeps
    · intro rs hr
      rw [placeRoutes_eq_map, List.flatMap_map] at hr
      obtain ⟨x, hx, hr⟩ := List.mem_flatMap.mp hr
      exact ih x hx (below x hx) (fun name h => ends name (mem_references_of_target hx h)) rs hr

/-- What stands at an end of a tree of nodes stands in the tree that is made of it. -/
theorem mem_parts_place (n : Node) {name : String} (h : name ∈ n.references) {p : Part σ}
    (hp : p ∈ (sinkAt name).parts) : p ∈ (n.place sinkAt).parts := by
  induction n using induction with
  | sink other =>
    obtain rfl := List.mem_singleton.mp h
    rwa [place]
  | group strategy members ih =>
    rw [references, referencesOfEach_eq_flatMap] at h
    obtain ⟨n, hn, h⟩ := List.mem_flatMap.mp h
    have each : p ∈ (placeEach sinkAt members).flatMap Sink.parts := by
      rw [placeEach_eq_map, List.flatMap_map]
      exact List.mem_flatMap.mpr ⟨n, hn, ih n hn h⟩
    cases strategy with
    | fanout => rwa [place, Sink.parts_fanout]
    | failover | pool => rwa [place, Sink.parts, Sink.partsEach_eq_flatMap]
  | router routes first ih =>
    rw [references, referencesOfTargets_eq_flatMap] at h
    obtain ⟨x, hx, h⟩ := List.mem_flatMap.mp h
    rw [place, placeRoutes_eq_map]
    cases first with
    | true =>
      rw [Sink.router, if_pos rfl, Sink.parts_firstMatchOf, List.flatMap_map]
      exact List.mem_flatMap.mpr ⟨x, hx, List.mem_cons_of_mem _ (ih x hx h)⟩
    | false =>
      rw [Sink.router, if_neg Bool.false_ne_true, Sink.parts_fanout, List.flatMap_map,
        List.flatMap_map]
      exact List.mem_flatMap.mpr ⟨x, hx, List.mem_cons_of_mem _ (ih x hx h)⟩

end Node

namespace Blueprint
variable {b : Blueprint}

theorem unused_mem_warnings {name : String} :
    .unused name ∈ b.warnings ↔ name ∈ b.sinks.map SinkSpec.name ∧ name ∉ b.root.references := by
  have last : .unused name ∉ (if b.recover then [] else [Warning.noRecovery]) := by
    split <;> simp
  simp only [warnings, List.mem_append, last, List.mem_replicate, reduceCtorEq, and_false, or_false,
    List.mem_map, List.mem_filter, Warning.unused.injEq, List.contains_eq_mem, Bool.not_eq_true',
    decide_eq_false_iff_not]
  constructor
  · rintro ⟨s, ⟨hs, apart⟩, rfl⟩
    exact ⟨⟨s, hs, rfl⟩, apart⟩
  · rintro ⟨⟨s, hs, rfl⟩, apart⟩
    exact ⟨s, ⟨hs, apart⟩, rfl⟩

theorem noCatchAll_mem_warnings : .noCatchAll ∈ b.warnings ↔ b.root.countDropping ≠ 0 := by
  have last : .noCatchAll ∉ (if b.recover then [] else [Warning.noRecovery]) := by
    split <;> simp
  simp [warnings, last]

theorem routers_treeOver (sinkAt : String → Sink σ) :
    (b.treeOver sinkAt).routers = (b.root.place sinkAt).routers := by
  rw [treeOver]
  split <;> rfl

theorem mem_parts_treeOver {sinkAt : String → Sink σ} {name : String}
    (h : name ∈ b.root.references) {p : Part σ} (hp : p ∈ (sinkAt name).parts) :
    p ∈ (b.treeOver sinkAt).parts := by
  have root := b.root.mem_parts_place h hp
  rw [treeOver]
  split
  · exact List.mem_cons_of_mem _ root
  · exact root

end Blueprint
end Config

/-- A part of a tree over the leaves of some names, in whatever scope. No part is a hook. -/
def Part.Belongs (leafAt : String → Leaf σ) (number : String → MeterId) (names : List String) :
    Part σ → Prop
  | .leaf l => ∃ name ∈ names, ∃ f, l = (leafAt name).rescope f
  | .meter m => ∃ name ∈ names, m = number name
  | .hooks _ => False
  | .guard _ => True
  | .recovery _ => True

def Delivery.Belongs (leafAt : String → Leaf σ) (names : List String) (d : Delivery) : Prop :=
  ∃ name ∈ names, d.sink = (leafAt name).name ∧ d.buffer = (leafAt name).buffer?

/-- What a tree is built over: for each name its leaf, fresh, alone or behind a meter of that name. -/
structure Ends (leafAt : String → Leaf σ) (number : String → MeterId) (names : List String)
    (sinkAt : String → Sink σ) : Prop where
  fresh : ∀ name ∈ names, Sink.Built Part.Fresh (sinkAt name)
  belongs : ∀ name ∈ names, Sink.Built (Part.Belongs leafAt number names) (sinkAt name)
  leaf : ∀ name ∈ names, .leaf (leafAt name) ∈ (sinkAt name).parts
  routers : ∀ name ∈ names, (sinkAt name).routers = []

section
variable {leafAt : String → Leaf σ} {number : String → MeterId} {names : List String}

theorem Part.Belongs.rescope (f : Scope → Scope) (p : Part σ)
    (belongs : p.Belongs leafAt number names) : (p.rescope f).Belongs leafAt number names := by
  cases p with
  | leaf l =>
    obtain ⟨name, h, g, rfl⟩ := belongs
    exact ⟨name, h, f ∘ g, rfl⟩
  | guard g | recovery recovery | meter m | hooks h => exact belongs

theorem ends_leaf (number : String → MeterId) (fresh : ∀ name ∈ names, (leafAt name).scope = .empty) :
    Ends leafAt number names fun name => .leaf (leafAt name) where
  fresh name h := .leaf (fresh name h)
  belongs name h := .leaf ⟨name, h, id, rfl⟩
  leaf _ _ := List.mem_cons_self
  routers _ _ := rfl

theorem ends_meteredAt (number : String → MeterId)
    (fresh : ∀ name ∈ names, (leafAt name).scope = .empty) :
    Ends leafAt number names (meteredAt number leafAt) where
  fresh name h := .metered trivial (.leaf (fresh name h))
  belongs name h := .metered ⟨name, h, rfl⟩ (.leaf ⟨name, h, id, rfl⟩)
  leaf _ _ := List.mem_cons_of_mem _ List.mem_cons_self
  routers _ _ := rfl

end

namespace Ends
variable {leafAt : String → Leaf σ} {number : String → MeterId} {b : Blueprint}
  {sinkAt : String → Sink σ}

theorem sink_logger (ends : Ends leafAt number b.root.references sinkAt) (q : Call) :
    (q.logger (b.treeOver sinkAt)).sink = (b.treeOver sinkAt).rescope q.move := by
  rw [Call.logger_eq (b.fresh_treeOver ends.fresh)]

theorem built (ends : Ends leafAt number b.root.references sinkAt) :
    Sink.Built (Part.Belongs leafAt number b.root.references) (b.treeOver sinkAt) :=
  b.built_treeOver (fun _ => trivial) trivial ends.belongs

theorem open_treeOver (ends : Ends leafAt number b.root.references sinkAt) :
    (b.treeOver sinkAt).Open := by
  intro p hp
  have belongs := ends.built.part (fun _ _ => trivial) p hp
  cases p with
  | hooks h => exact belongs.elim
  | leaf _ | guard _ | recovery _ | meter _ => trivial

/-- Deriving changes no part but in its scope. -/
theorem parts_logger (ends : Ends leafAt number b.root.references sinkAt) (q : Call) :
    ∀ p ∈ (q.logger (b.treeOver sinkAt)).sink.parts,
      p.Belongs leafAt number b.root.references := by
  rw [ends.sink_logger]
  exact (ends.built.rescope (Part.Belongs.rescope q.move)).part fun _ _ => trivial

theorem alwaysRoutes (ends : Ends leafAt number b.root.references sinkAt)
    (silent : .noCatchAll ∉ b.warnings) (q : Call) :
    (q.logger (b.treeOver sinkAt)).sink.AlwaysRoutes := by
  have never : b.root.countDropping = 0 := by
    rwa [Blueprint.noCatchAll_mem_warnings, not_not] at silent
  intro rs hr
  rw [ends.sink_logger, Sink.routers_rescope, Blueprint.routers_treeOver] at hr
  obtain ⟨placed, hp, rfl⟩ := List.mem_map.mp hr
  have catches := b.root.catchAll_place never ends.routers placed hp
  exact (catches.rescope q.move).found

theorem misses (ends : Ends leafAt number b.root.references sinkAt)
    (silent : .noCatchAll ∉ b.warnings) (calls : List (Context × Call)) (w : World σ) :
    (Call.logAllIn (b.treeOver sinkAt) calls w).2.misses = w.misses := by
  refine Call.logAllIn_keeps (R := fun w v => v.misses = w.misses) (fun _ => rfl)
    (fun first second => second.trans first) ?_ calls w
  intro c q w
  have plain := Call.open_logger ends.open_treeOver q
  simp only [Call.logIn, Logger.log, Logger.withContext]
  split
  · rfl
  · rfl
  · exact Sink.misses_of_handle plain (ends.alwaysRoutes silent q) c _ w

theorem delivers (ends : Ends leafAt number b.root.references sinkAt)
    (calls : List (Context × Call)) (w : World σ) :
    World.Delivers (Delivery.Belongs leafAt b.root.references) w
      (Call.logAllIn (b.treeOver sinkAt) calls w).2 := by
  have frame := World.frame_delivers (σ := σ) (Delivery.Belongs leafAt b.root.references)
  refine Call.logAllIn_keeps frame.refl frame.trans ?_ calls w
  intro c q w
  refine World.delivers_mono ?_ (delivers_of_steps (Call.steps_of_log ends.open_treeOver c q w))
  rintro d ⟨l, hl, _, rfl⟩
  obtain ⟨name, h, f, rfl⟩ := ends.parts_logger q (.leaf l) hl
  exact ⟨name, h, rfl, rfl⟩

theorem counters (ends : Ends leafAt number b.root.references sinkAt) {m : MeterId}
    (apart : ∀ name ∈ b.root.references, number name ≠ m) (calls : List (Context × Call))
    (w : World σ) : (Call.logAllIn (b.treeOver sinkAt) calls w).2.counters m = w.counters m := by
  refine Call.logAllIn_keeps (R := fun w v => v.counters m = w.counters m) (fun _ => rfl)
    (fun first second => second.trans first) ?_ calls w
  intro c q w
  refine counters_of_steps (Call.steps_of_log ends.open_treeOver c q w) fun hp => ?_
  obtain ⟨name, h, same⟩ := ends.parts_logger q (.meter m) hp
  exact apart name h same.symm

end Ends

/-- What the warnings promise about every sequence of calls on a tree that stands in the world `v`, when
`w` is the world from before it was made. -/
structure Config.Blueprint.WarnsOf (b : Blueprint) (g : Registry σ) (number : String → MeterId)
    (w : World σ) (tree : Sink σ) (v : World σ) : Prop where
  routed : .noCatchAll ∉ b.warnings →
    (∀ q : Call, (q.logger tree).sink.AlwaysRoutes) ∧
    ∀ calls, (Call.logAllIn tree calls v).2.misses = w.misses
  unused : ∀ s ∈ b.sinks, .unused s.name ∈ b.warnings → ∀ calls,
    let u := (Call.logAllIn tree calls v).2
    World.Delivers (·.sink ≠ s.name) w u ∧
    (s.sinkType = .memory →
      ∃ h, g.memory? s.name = some h ∧ u.buffer h.buffer = w.buffer h.buffer) ∧
    ((∀ name ∈ b.root.references, number name = number s.name → name = s.name) →
      u.counters (number s.name) = w.counters (number s.name))
  used : ∀ s ∈ b.sinks, .unused s.name ∉ b.warnings →
    ∃ l, g.get? s.name = some (.leaf l) ∧ .leaf l ∈ tree.parts

namespace Config.Blueprint
variable {b : Blueprint}

theorem warnsOf_treeOver (valid : b.validate = .ok ()) {next : BufferId} {g : Registry σ}
    (holds : ∀ x ∈ b.sinks.zipIdx next, g.Holds x.1 x.2) {number : String → MeterId}
    {sinkAt : String → Sink σ}
    (ends : Ends (Registry.leafAt next b.sinks) number b.root.references sinkAt) {w v : World σ}
    (rests : w.Rests v) : b.WarnsOf g number w (b.treeOver sinkAt) v where
  routed silent := by
    constructor
    · exact ends.alwaysRoutes silent
    · exact fun calls => (ends.misses silent calls v).trans rests.misses
  unused s hs warned calls := by
    obtain ⟨_, absent⟩ := unused_mem_warnings.mp warned
    have others : ∀ name ∈ b.root.references, name ≠ s.name :=
      fun name h same => absent (same ▸ h)
    have frame := World.frame_delivers (σ := σ)
      (Delivery.Belongs (Registry.leafAt (σ := σ) next b.sinks) b.root.references)
    have delivers := frame.trans (World.delivers_of_eq rests.deliveries) (ends.delivers calls v)
    refine ⟨?_, ?_, ?_⟩
    · refine World.delivers_mono ?_ delivers
      rintro d ⟨name, h, named, _⟩
      rw [named, Registry.name_leafAt]
      exact others name h
    · intro kind
      obtain ⟨i, hi⟩ := exists_number next hs
      refine ⟨_, (holds _ hi).2 kind, ?_⟩
      refine World.buffer_of_others (World.delivers_mono ?_ delivers)
      rintro d ⟨name, h, _, stored⟩ same
      have found := (Registry.buffer_leafAt (distinct_of_valid valid) hi kind name).mp
        (stored.symm.trans same)
      exact others name h found
    · intro own
      have apart : ∀ name ∈ b.root.references, number name ≠ number s.name :=
        fun name h same => others name h (own name h same)
      have before : v.counters (number s.name) = w.counters (number s.name) := by
        simp only [World.counters, World.count, rests.ticks]
      exact (ends.counters apart calls v).trans before
  used s hs silent := by
    have present : s.name ∈ b.root.references := by
      by_contra absent
      exact silent (unused_mem_warnings.mpr ⟨List.mem_map_of_mem hs, absent⟩)
    exact ⟨_, known_of_valid valid holds s.name present,
      mem_parts_treeOver present (ends.leaf s.name present)⟩

/-- A valid configuration is built, and built over metered leaves, and what it is warned of or not is
true of every run of either tree. -/
theorem warnings_sound (valid : b.validate = .ok ()) (number : String → MeterId) (next : BufferId)
    (w : World σ) :
    ∃ g root counted w₁ w₂ w₃, Registry.ofBlueprint next b w = (.ok g, w₁) ∧
      g.build b w₁ = (.ok root, w₂) ∧
      (g.mapLeaves fun name s => .metered (number name) s).build b w₁ = (.ok counted, w₃) ∧
      b.WarnsOf g number w root w₂ ∧ b.WarnsOf g number w counted w₃ := by
  obtain ⟨g, w₁, w₃, made, registry, metered, _⟩ := built_metered valid number next w
  have fresh := fun name h => (plain_of_valid (σ := σ) valid next name h).scope
  have plain := b.build_eq_tree (known_of_valid valid registry.holds) w₁
  have rests : ∀ (h : Registry σ), w.Rests (h.build b w₁).2 := by
    intro h
    have first := Registry.createAll_within World.course_rests b.sinks next .empty w
    have second := Registry.build_within World.course_rests h b w₁
    change Registry.createAll next .empty b.sinks w = (.ok g, w₁) at made
    rw [made] at first
    exact World.course_rests.trans first second
  refine ⟨g, _, _, w₁, _, w₃, made, plain, metered, ?_, ?_⟩
  · have still := rests g
    rw [plain] at still
    exact warnsOf_treeOver valid registry.holds (ends_leaf number fresh) still
  · have still := rests (g.mapLeaves fun name s => .metered (number name) s)
    rw [metered] at still
    exact warnsOf_treeOver valid registry.holds (ends_meteredAt number fresh) still

theorem warnings_sound_router :
    let b : Blueprint := ⟨.v1, true, [⟨"a", .memory, .info⟩, ⟨"b", .memory, .info⟩],
      .router [([.levelIs [.error]], .group .failover [.sink "a"]), ([], .sink "a")] true⟩
    let number := fun name => if name = "b" then 1 else 0
    b.validate = .ok () ∧ b.warnings = [.unused "b"] ∧
    ∃ g counted w₁ w₂, Registry.ofBlueprint 0 b (.start () fun i => i) = (.ok g, w₁) ∧
      (g.mapLeaves fun name s => .metered (number name) s).build b w₁ = (.ok counted, w₂) ∧
      (∃ l, g.get? "a" = some (.leaf l) ∧ .leaf l ∈ counted.parts) ∧
      ∀ calls, let v := (Call.logAllIn counted calls w₂).2
        v.misses = [] ∧ v.counters 1 = ⟨0, 0, 0⟩ ∧
        ∃ h, g.memory? "b" = some h ∧ v.buffer h.buffer = [] := by
  intro b number
  have valid : b.validate = .ok () := by decide
  have warned : b.warnings = [.unused "b"] := by decide
  obtain ⟨g, _, counted, w₁, _, w₂, made, _, built, _, warns⟩ :=
    warnings_sound valid number 0 (World.start () fun i => i)
  refine ⟨valid, warned, g, counted, w₁, w₂, made, built, ?_, fun calls => ?_⟩
  · exact warns.used ⟨"a", .memory, .info⟩ (by simp [b]) (by simp [warned])
  · obtain ⟨_, none⟩ := warns.routed (by simp [warned])
    obtain ⟨_, empty, zero⟩ :=
      warns.unused ⟨"b", .memory, .info⟩ (by simp [b]) (by simp [warned]) calls
    have own : ∀ name ∈ b.root.references, number name = number "b" → name = "b" := by decide
    exact ⟨none calls, zero own, empty rfl⟩

end Config.Blueprint
end LogTree
