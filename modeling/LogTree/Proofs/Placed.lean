import LogTree.Proofs.Declared
import LogTree.Proofs.Meaning
import LogTree.Proofs.Scopes
import LogTree.Registry
import Mathlib.Data.List.Nodup

/-!
Building: the leaves that a registry makes of the declared sinks, and the tree that a node becomes
over them. Where the names are declared once and cover the tree, nothing fails.
-/
namespace LogTree
open Config
variable {σ : Type}

/-- Where keys are distinct, looking for one finds the element it belongs to. -/
theorem find?_of_distinct {α : Type} {key : α → String} {xs : List α}
    (distinct : (xs.map key).Nodup) {x : α} (hx : x ∈ xs) :
    xs.find? (fun y => key y == key x) = some x := by
  cases found : xs.find? fun y => key y == key x with
  | none => simpa using List.find?_eq_none.mp found x hx
  | some y =>
    have same : key y = key x := by simpa using List.find?_some found
    rw [List.inj_on_of_nodup_map distinct (List.mem_of_find?_eq_some found) hx same]

namespace Registry

/-- The leaf of a declared name, when the sinks are numbered from `next` on. -/
def leafAt (next : BufferId) (specs : List SinkSpec) (name : String) : Leaf σ :=
  match (specs.zipIdx next).find? (·.1.name == name) with
  | some (s, i) => leafOf s i
  | none => ⟨name, .empty, .log .error⟩

theorem leafAt_of_mem {next : BufferId} {specs : List SinkSpec}
    (distinct : (specs.map SinkSpec.name).Nodup) {x : SinkSpec × BufferId}
    (hx : x ∈ specs.zipIdx next) : (leafAt next specs x.1.name : Leaf σ) = leafOf x.1 x.2 := by
  have numbered : ((specs.zipIdx next).map fun x => x.1.name).Nodup := by
    rw [← List.zipIdx_map_fst next specs, List.map_map] at distinct
    exact distinct
  have found := find?_of_distinct numbered hx
  simp only [leafAt, found]

/-- A buffer belongs to the one leaf that got its number. -/
theorem buffer_leafAt {next : BufferId} {specs : List SinkSpec}
    (distinct : (specs.map SinkSpec.name).Nodup) {x : SinkSpec × BufferId}
    (hx : x ∈ specs.zipIdx next) (memory : x.1.sinkType = .memory) (name : String) :
    (leafAt next specs name : Leaf σ).buffer? = some x.2 ↔ name = x.1.name := by
  constructor
  · intro same
    rw [leafAt] at same
    split at same
    · rename_i s i found
      have hs := List.mem_of_find?_eq_some found
      have named := List.find?_some found
      have number : i = x.2 := by
        cases kind : s.sinkType <;> simp [leafOf, Leaf.buffer?, kind] at same
        exact same
      subst number
      obtain ⟨_, hs⟩ := List.mk_mem_zipIdx_iff_le_and_getElem?_sub.mp hs
      obtain ⟨_, hx⟩ := List.mk_mem_zipIdx_iff_le_and_getElem?_sub.mp hx
      rw [hs] at hx
      rw [← Option.some.inj hx]
      exact (beq_iff_eq.mp named).symm
    · contradiction
  · rintro rfl
    rw [leafAt_of_mem distinct hx]
    simp [leafOf, Leaf.buffer?, memory]

def Holds (g : Registry σ) (s : SinkSpec) (buffer : BufferId) : Prop :=
  g.get? s.name = some (.leaf (leafOf s buffer)) ∧
    (s.sinkType = .memory → g.memory? s.name = some ⟨s.least, buffer⟩)

theorem create_ok {g : Registry σ} {s : SinkSpec} (fresh : g.get? s.name = none)
    (buffer : BufferId) :
    ∃ h, g.create s buffer = .ok h ∧ h.Holds s buffer ∧
      ∀ name, name ≠ s.name → h.get? name = g.get? name ∧ h.memory? name = g.memory? name := by
  have absent : g.sinks.contains s.name = false := by
    rw [Dict.contains_eq_isSome, ← get?, fresh]
    rfl
  have other : ∀ name, name ≠ s.name → ∀ x,
      (g.sinks.insert s.name x).get? name = g.sinks.get? name := by
    intro name differs x
    rw [Dict.get?_insert, if_neg differs.symm]
  simp only [create, absent, Bool.false_eq_true, if_false]
  cases kind : s.sinkType with
  | log =>
    refine ⟨_, rfl, ⟨?_, by simp [kind]⟩, fun name differs => ⟨other name differs _, rfl⟩⟩
    rw [get?, Dict.get?_insert, if_pos rfl]
  | memory =>
    refine ⟨_, rfl, ⟨?_, fun _ => ?_⟩, fun name differs => ⟨other name differs _, ?_⟩⟩
    · rw [get?, Dict.get?_insert, if_pos rfl]
    · rw [memory?, Dict.get?_insert, if_pos rfl]
    · rw [memory?, Dict.get?_insert, if_neg differs.symm]
      rfl

theorem createAll_ok {specs : List SinkSpec} (distinct : (specs.map SinkSpec.name).Nodup)
    (next : BufferId) {g : Registry σ} (fresh : ∀ s ∈ specs, g.get? s.name = none) (w : World σ) :
    ∃ h v, createAll next g specs w = (.ok h, v) ∧ w.Adds [] w.starts v ∧
      (∀ x ∈ specs.zipIdx next, h.Holds x.1 x.2) ∧
      ∀ name, name ∉ specs.map SinkSpec.name →
        h.get? name = g.get? name ∧ h.memory? name = g.memory? name := by
  induction specs generalizing next g w with
  | nil => exact ⟨g, w, rfl, w.adds_nothing, by simp, fun _ _ => ⟨rfl, rfl⟩⟩
  | cons s rest ih =>
    obtain ⟨once, distinct⟩ := List.nodup_cons.mp distinct
    obtain ⟨new, later⟩ := List.forall_mem_cons.mp fresh
    obtain ⟨g', created, holds, kept⟩ := create_ok new next
    have fresh' : ∀ t ∈ rest, g'.get? t.name = none := by
      intro t ht
      have differs : t.name ≠ s.name := fun same => once (same ▸ List.mem_map_of_mem ht)
      rw [(kept t.name differs).1, later t ht]
    obtain ⟨h, v, all, adds, held, untouched⟩ :=
      ih distinct (next + 1) fresh' (w.note (.leafCreated s.name))
    refine ⟨h, v, ?_, (w.adds_note _).trans adds, ?_, ?_⟩
    · simp only [createAll, created, all]
    · rw [List.zipIdx_cons]
      refine List.forall_mem_cons.mpr ⟨?_, held⟩
      simpa only [Holds, untouched s.name once] using holds
    · intro name absent
      obtain ⟨differs, absent⟩ := not_or.mp (mt List.mem_cons.mpr absent)
      obtain ⟨sinks, memory⟩ := untouched name absent
      obtain ⟨sinks', memory'⟩ := kept name differs
      exact ⟨sinks.trans sinks', memory.trans memory'⟩

theorem ofBlueprint_ok {b : Blueprint} (distinct : (b.sinks.map SinkSpec.name).Nodup)
    (next : BufferId) (w : World σ) :
    ∃ g v, ofBlueprint next b w = (.ok g, v) ∧ w.Adds [] w.starts v ∧
      ∀ x ∈ b.sinks.zipIdx next, g.Holds x.1 x.2 := by
  obtain ⟨g, v, made, adds, held, _⟩ := createAll_ok distinct next (g := .empty) (fun _ _ => rfl) w
  exact ⟨g, v, made, adds, held⟩

end Registry

namespace Config.Node

section
variable (sinkAt : String → Sink σ)

mutual

def place : Node → Sink σ
  | .sink name => sinkAt name
  | .group .fanout members => Sink.fanout (placeEach members)
  | .group .failover members => .failover (placeEach members)
  | .group .pool members => .pool (placeEach members)
  | .router routes first => Sink.router first (placeRoutes routes)

def placeEach : List Node → List (Sink σ)
  | [] => []
  | n :: rest => place n :: placeEach rest

def placeRoutes : List (List PredicateSpec × Node) → List (Guard σ × Sink σ)
  | [] => []
  | (ps, target) :: rest =>
    (.ofPredicates (ps.map PredicateSpec.predicate), place target) :: placeRoutes rest

end

theorem placeEach_eq_map (ns : List Node) :
    placeEach sinkAt ns = ns.map (place sinkAt) := by
  induction ns with
  | nil => simp [placeEach]
  | cons n rest ih => simp [placeEach, ih]

theorem placeRoutes_eq_map (rs : List (List PredicateSpec × Node)) :
    placeRoutes sinkAt rs =
      rs.map fun r => (.ofPredicates (r.1.map PredicateSpec.predicate), r.2.place sinkAt) := by
  induction rs with
  | nil => simp [placeRoutes]
  | cons r rest ih => simp [placeRoutes, ih]

end

/-- The first name in the tree, from left to right, that is not among the given. -/
def undeclared? (names : List String) (n : Node) : Option String :=
  n.references.find? fun name => !names.contains name

theorem undeclared?_group (names : List String) (strategy : Strategy) (ns : List Node) :
    (Node.group strategy ns).undeclared? names = ns.findSome? (undeclared? names) := by
  rw [undeclared?, references, referencesOfEach_eq_flatMap, List.find?_flatMap]
  rfl

theorem undeclared?_router (names : List String) (first : Bool)
    (rs : List (List PredicateSpec × Node)) :
    (Node.router rs first).undeclared? names = rs.findSome? fun r => r.2.undeclared? names := by
  rw [undeclared?, references, referencesOfTargets_eq_flatMap, List.find?_flatMap]
  rfl

theorem undeclared?_eq_none {names : List String} {n : Node} :
    n.undeclared? names = none ↔ ∀ name ∈ n.references, name ∈ names := by
  simp [undeclared?, List.find?_eq_none]

def builtOr {α : Type} (made : α) : Option String → Except BuildError α
  | none => .ok made
  | some name => .error (.unknownSink name)

section
variable {sinkAt : String → Sink σ} {g : Registry σ} {names : List String}

theorem sinksOf_eq_builtOr {ns : List Node}
    (each : ∀ n ∈ ns, g.sinkOf n = builtOr (n.place sinkAt) (n.undeclared? names)) :
    g.sinksOf ns = builtOr (placeEach sinkAt ns) (ns.findSome? (undeclared? names)) := by
  induction ns with
  | nil =>
    rw [Registry.sinksOf, placeEach]
    rfl
  | cons n rest ih =>
    obtain ⟨first, others⟩ := List.forall_mem_cons.mp each
    rw [Registry.sinksOf, first, List.findSome?_cons, placeEach]
    cases n.undeclared? names with
    | some name => rfl
    | none =>
      rw [ih others]
      cases rest.findSome? (undeclared? names) <;> rfl

theorem routesOf_eq_builtOr {rs : List (List PredicateSpec × Node)}
    (each : ∀ r ∈ rs, g.sinkOf r.2 = builtOr (r.2.place sinkAt) (r.2.undeclared? names)) :
    g.routesOf rs =
      builtOr (placeRoutes sinkAt rs) (rs.findSome? fun r => r.2.undeclared? names) := by
  induction rs with
  | nil =>
    rw [Registry.routesOf, placeRoutes]
    rfl
  | cons r rest ih =>
    obtain ⟨first, others⟩ := List.forall_mem_cons.mp each
    rw [Registry.routesOf, first, List.findSome?_cons, placeRoutes]
    cases r.2.undeclared? names with
    | some name => rfl
    | none =>
      rw [ih others]
      cases rest.findSome? fun r => r.2.undeclared? names <;> rfl

/-- A tree is built in order, so the first name that is missing ends it. -/
theorem sinkOf_eq_builtOr (n : Node)
    (known : ∀ name ∈ n.references, name ∈ names → g.get? name = some (sinkAt name))
    (unknown : ∀ name ∈ n.references, name ∉ names → g.get? name = none) :
    g.sinkOf n = builtOr (n.place sinkAt) (n.undeclared? names) := by
  induction n using induction with
  | sink name =>
    rw [Registry.sinkOf, place, undeclared?, references]
    by_cases declared : name ∈ names
    · simp [known name List.mem_cons_self declared, declared, builtOr]
    · simp [unknown name List.mem_cons_self declared, declared, builtOr]
  | group strategy members ih =>
    have each : ∀ n ∈ members, g.sinkOf n = builtOr (n.place sinkAt) (n.undeclared? names) :=
      fun n hn => ih n hn (fun name h => known name (mem_references_of_member hn h))
        fun name h => unknown name (mem_references_of_member hn h)
    rw [Registry.sinkOf, sinksOf_eq_builtOr each, undeclared?_group]
    cases members.findSome? (undeclared? names) with
    | some name => rfl
    | none => cases strategy <;> rw [place] <;> rfl
  | router routes first ih =>
    have each : ∀ r ∈ routes, g.sinkOf r.2 = builtOr (r.2.place sinkAt) (r.2.undeclared? names) :=
      fun r hr => ih r hr (fun name h => known name (mem_references_of_target hr h))
        fun name h => unknown name (mem_references_of_target hr h)
    rw [Registry.sinkOf, routesOf_eq_builtOr each, undeclared?_router, place]
    cases routes.findSome? fun r => r.2.undeclared? names <;> rfl

theorem sinkOf_eq_place (n : Node)
    (known : ∀ name ∈ n.references, g.get? name = some (sinkAt name)) :
    g.sinkOf n = .ok (n.place sinkAt) := by
  have all : n.undeclared? n.references = none := undeclared?_eq_none.mpr fun _ h => h
  rw [sinkOf_eq_builtOr n (fun name h _ => known name h) fun name h absent => absurd h absent, all]
  rfl

theorem built_place {ok : Part σ → Prop} (n : Node)
    (guards : ∀ ps : List PredicateSpec,
      ok (.guard (.ofPredicates (ps.map PredicateSpec.predicate))))
    (ends : ∀ name ∈ n.references, Sink.Built ok (sinkAt name)) :
    Sink.Built ok (n.place sinkAt) := by
  induction n using induction with
  | sink name =>
    rw [place]
    exact ends name List.mem_cons_self
  | group strategy members ih =>
    have each : ∀ s ∈ placeEach sinkAt members, Sink.Built ok s := by
      rw [placeEach_eq_map]
      intro s hs
      obtain ⟨n, hn, rfl⟩ := List.mem_map.mp hs
      exact ih n hn fun name h => ends name (mem_references_of_member hn h)
    cases strategy with
    | fanout => rw [place]; exact .fanout each
    | failover => rw [place]; exact .failover each
    | pool => rw [place]; exact .pool each
  | router routes first ih =>
    rw [place, placeRoutes_eq_map]
    refine .router ?_ ?_
    · intro r hr
      obtain ⟨x, _, rfl⟩ := List.mem_map.mp hr
      exact guards x.1
    · intro r hr
      obtain ⟨x, hx, rfl⟩ := List.mem_map.mp hr
      exact ih x hx fun name h => ends name (mem_references_of_target hx h)

end

end Config.Node

namespace Config.Blueprint

/-- The tree that a blueprint describes over its sinks. -/
def treeOver (sinkAt : String → Sink σ) (b : Blueprint) : Sink σ :=
  if b.recover then .recovered .logging (b.root.place sinkAt) else b.root.place sinkAt

def tree (leafAt : String → Leaf σ) (b : Blueprint) : Sink σ :=
  b.treeOver fun name => .leaf (leafAt name)

theorem build_eq_treeOver {sinkAt : String → Sink σ} {g : Registry σ} (b : Blueprint)
    (known : ∀ name ∈ b.root.references, g.get? name = some (sinkAt name)) (w : World σ) :
    g.build b w = (.ok (b.treeOver sinkAt), w.note (.treeBuilt g.size)) := by
  rw [Registry.build, Node.sinkOf_eq_place b.root known]
  rfl

theorem build_eq_tree {leafAt : String → Leaf σ} {g : Registry σ} (b : Blueprint)
    (known : ∀ name ∈ b.root.references, g.get? name = some (.leaf (leafAt name))) (w : World σ) :
    g.build b w = (.ok (b.tree leafAt), w.note (.treeBuilt g.size)) :=
  b.build_eq_treeOver known w

theorem built_treeOver {ok : Part σ → Prop} {sinkAt : String → Sink σ} (b : Blueprint)
    (guards : ∀ ps : List PredicateSpec,
      ok (.guard (.ofPredicates (ps.map PredicateSpec.predicate))))
    (recovery : ok (.recovery .logging))
    (ends : ∀ name ∈ b.root.references, Sink.Built ok (sinkAt name)) :
    Sink.Built ok (b.treeOver sinkAt) := by
  have root := Node.built_place b.root guards ends
  rw [treeOver]
  split
  · exact .recovered recovery root
  · exact root

theorem fresh_treeOver {sinkAt : String → Sink σ} (b : Blueprint)
    (fresh : ∀ name ∈ b.root.references, Sink.Built Part.Fresh (sinkAt name)) :
    Sink.Built Part.Fresh (b.treeOver sinkAt) :=
  b.built_treeOver (fun _ => rfl) trivial fresh

theorem built_tree {leafAt : String → Leaf σ} (b : Blueprint)
    (fresh : ∀ name ∈ b.root.references, (leafAt name).scope = .empty) :
    Sink.Built Part.Fresh (b.tree leafAt) :=
  b.fresh_treeOver fun name h => .leaf (fresh name h)

end Config.Blueprint
end LogTree
