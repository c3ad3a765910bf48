import LogTree.Proofs.Placed
import LogTree.Proofs.Search
import LogTree.Proofs.Serves

/-!
The tree that is built does what the configuration means. Each node of the tree serves a record as
`Node.reach` says; the runs follow call by call. Main statement: `runs_as_configured`.
-/
namespace LogTree
open Config
variable {σ : Type}

namespace Config

theorem occursIn_eq {α : Type} [DecidableEq α] (part cs : List α) :
    occursIn part cs = decide (part <:+: cs) := by
  induction cs with
  | nil => cases part <;> simp [occursIn]
  | cons c rest ih =>
    rw [Bool.eq_iff_iff]
    simp only [occursIn, ih, Bool.or_eq_true, List.isPrefixOf_iff_prefix, decide_eq_true_eq,
      List.infix_cons_iff]

theorem PredicateSpec.holds_predicate (p : PredicateSpec) (c : Context) (v : Record) (s : σ) :
    p.predicate.holds c v s = (.ok (p.holds v), s) := by
  cases p with
  | levelIs _ | messageIs _ =>
    simp only [predicate, Predicate.holds, MessageTest.holds, PredicateSpec.holds, Bool.bne_false]
  | levelIsNot _ | messageIsNot _ =>
    simp only [predicate, Predicate.holds, MessageTest.holds, PredicateSpec.holds, Bool.bne_true]
  | messageContains part =>
    simp only [predicate, Predicate.holds, MessageTest.holds, PredicateSpec.holds, Bool.bne_false,
      occursIn_eq]
  | messageNotContains part =>
    simp only [predicate, Predicate.holds, MessageTest.holds, PredicateSpec.holds, Bool.bne_true,
      occursIn_eq, decide_not]
  | attrValueIs attrs =>
    simp only [predicate, Predicate.holds, Search.allFound_eq, List.all_map, PredicateSpec.holds]
    rfl
  | attrKindIs attrs =>
    simp only [predicate, Predicate.holds, Search.allFound_eq, PredicateSpec.holds]

theorem PredicateSpec.allHold_predicates (ps : List PredicateSpec) (c : Context) (v : Record)
    (s : σ) :
    Predicate.allHold c v (ps.map PredicateSpec.predicate) s =
      (.ok (ps.all (PredicateSpec.holds v)), s) := by
  induction ps with
  | nil => rfl
  | cons p ps ih =>
    rw [List.map_cons, Predicate.allHold, p.holds_predicate, List.all_cons]
    cases PredicateSpec.holds v p with
    | true => exact ih
    | false => rfl

namespace Node

theorem offers_eq_map (least? : String → Option Level) (v : Record) (ns : List Node) :
    offers least? v ns = ns.map fun n => (n.accepts least? v.level, n.reach least? v) := by
  induction ns with
  | nil => simp [offers]
  | cons n rest ih => simp [offers, ih]

theorem matching_eq_map (least? : String → Option Level) (v : Record)
    (rs : List (List PredicateSpec × Node)) :
    matching least? v rs = (rs.filter fun r => r.1.all (PredicateSpec.holds v)).map fun r =>
      r.2.reach least? v := by
  induction rs with
  | nil => simp [matching]
  | cons r rest ih =>
    rw [matching, ih, List.filter_cons]
    split <;> rfl

theorem accepts_group (least? : String → Option Level) (level : Level) (strategy : Strategy)
    (ns : List Node) :
    (Node.group strategy ns).accepts least? level = ns.any (accepts least? level) := by
  rw [accepts, references, referencesOfEach_eq_flatMap, List.any_flatMap]
  rfl

theorem accepts_router (least? : String → Option Level) (level : Level) (first : Bool)
    (rs : List (List PredicateSpec × Node)) :
    (Node.router rs first).accepts least? level = rs.any fun r => r.2.accepts least? level := by
  rw [accepts, references, referencesOfTargets_eq_flatMap, List.any_flatMap]
  rfl

end Node
end Config

structure Leaf.Plain (least? : Option Level) (l : Leaf σ) : Prop where
  scope : l.scope = .empty
  kind : ∃ least, least? = some least ∧ (l.kind = .log least ∨ ∃ b, l.kind = .memory least b)

theorem Leaf.Plain.enabled {least? : Option Level} {l : Leaf σ} (plain : l.Plain least?)
    (move : Scope → Scope) (c : Context) (level : Level) :
    (l.rescope move).behaviour.enabled c level =
      .ok (least?.any fun least => decide (least ≤ level)) := by
  obtain ⟨_, least, rfl, kind⟩ := plain
  rcases kind with kind | ⟨b, kind⟩ <;>
    simp only [Leaf.behaviour, Leaf.rescope, Leaf.enabled, kind, Option.any_some]

theorem Leaf.Plain.handle {least? : Option Level} {l : Leaf σ} (plain : l.Plain least?)
    (move : Scope → Scope) (c : Context) (r : Record) (w : World σ) :
    ∃ v, (l.rescope move).behaviour.handle c r w = (.fine, v) ∧
      w.Adds [⟨l.name, move .empty, r, l.buffer?⟩] w.starts v := by
  obtain ⟨fresh, least, _, kind⟩ := plain
  have delivered := w.adds_deliver ⟨l.name, move .empty, r, l.buffer?⟩
  have call : (⟨(l.rescope move).name, (l.rescope move).scope, r, (l.rescope move).buffer?⟩ :
      Delivery) = ⟨l.name, move .empty, r, l.buffer?⟩ := by
    rw [← fresh]
    rfl
  simp only [Leaf.behaviour, Leaf.react, call]
  rcases kind with kind | ⟨b, kind⟩
  · simp only [Leaf.rescope, kind]
    exact ⟨_, rfl, delivered.trans (World.adds_note _ _)⟩
  · simp only [Leaf.rescope, kind]
    exact ⟨_, rfl, delivered⟩

/-- What reaches a leaf of a configuration once everything has one scope. -/
def deliveryTo (leafAt : String → Leaf σ) (scope : Scope) (r : Record) (name : String) : Delivery :=
  ⟨(leafAt name).name, scope, r, (leafAt name).buffer?⟩

section
variable {leafAt : String → Leaf σ} {least? : String → Option Level}

theorem Leaf.Plain.serves {name : String} (plain : (leafAt name).Plain (least? name))
    (move : Scope → Scope) (c : Context) (r : Record) :
    Behaviour.Serves (deliveryTo leafAt (move .empty) r) c r
      ((Node.sink name).accepts least? r.level)
      ((Node.sink name).reach least? ((move .empty).view r))
      ((leafAt name).rescope move).behaviour := by
  have accepts : (Node.sink name).accepts least? r.level =
      (least? name).any fun least => decide (least ≤ r.level) := by
    simp only [Node.accepts, Node.references, List.any_cons, List.any_nil, Bool.or_false]
  have reach : (Node.sink name).reach least? ((move .empty).view r) =
      if (Node.sink name).accepts least? r.level then .one name else .nowhere := by
    rw [Node.reach]
    rfl
  rw [reach]
  refine ⟨accepts ▸ plain.enabled move c r.level, fun yes w => ?_, fun no => ?_⟩
  · rw [if_pos yes]
    exact plain.handle move c r w
  · rw [no]
    rfl

theorem decides_predicates {g : Guard σ} {ps : List PredicateSpec}
    (asks : g.predicates = ps.map PredicateSpec.predicate) (c : Context) (r : Record) :
    Behaviour.Decides c r g (ps.all (PredicateSpec.holds (g.scope.view r))) := by
  intro w
  simp only [Guard.isMatch, World.runState, asks, PredicateSpec.allHold_predicates]

/-- Every node of a tree in one scope brings a record where it means to, if its ends do. -/
theorem Config.Node.serves_over {sinkAt : String → Sink σ} {deliver : String → Delivery} (n : Node)
    {move : Scope → Scope} {c : Context} {r : Record}
    (ends : ∀ name ∈ n.references, Behaviour.Serves deliver c r
      ((Node.sink name).accepts least? r.level)
      ((Node.sink name).reach least? ((move .empty).view r))
      ((sinkAt name).rescope move).behaviour) :
    Behaviour.Serves deliver c r (n.accepts least? r.level)
      (n.reach least? ((move .empty).view r)) ((n.place sinkAt).rescope move).behaviour := by
  induction n using induction with
  | sink name =>
    rw [place]
    exact ends name List.mem_cons_self
  | group strategy members ih =>
    have each := fun n hn => ih n hn fun name h => ends name (mem_references_of_member hn h)
    rw [accepts_group]
    cases strategy with
    | fanout =>
      rw [place, placeEach_eq_map, Sink.rescope_fanout, reach, offers_eq_map, List.map_map,
        List.map_map]
      exact Behaviour.serves_fanout each
    | failover =>
      rw [place, placeEach_eq_map, reach, offers_eq_map, Sink.rescope,
        Sink.rescopeEach_eq_map, Sink.behaviour, Sink.behaviours_eq_map, List.map_map, List.map_map]
      exact Behaviour.serves_failover each
    | pool =>
      rw [place, placeEach_eq_map, reach, offers_eq_map, Sink.rescope,
        Sink.rescopeEach_eq_map, Sink.behaviour, Sink.behaviours_eq_map, List.map_map, List.map_map]
      exact Behaviour.serves_pool each
  | router routes first ih =>
    have each := fun r hr => ih r hr fun name h => ends name (mem_references_of_target hr h)
    rw [accepts_router, place, placeRoutes_eq_map]
    cases first with
    | true =>
      rw [Sink.router, if_pos rfl, Sink.rescope_firstMatchOf, Sink.firstMatchOf, Sink.behaviour,
        Sink.routeBehaviours_eq_map, List.map_map, List.map_map, List.map_map, reach,
        matching_eq_map]
      exact Behaviour.serves_firstMatch (fun _ _ => decides_predicates rfl c r)
        (fun _ _ => rfl) each
    | false =>
      rw [Sink.router, if_neg Bool.false_ne_true, Sink.rescope_fanout, List.map_map, List.map_map,
        reach, matching_eq_map, Behaviour.all_filter]
      exact Behaviour.serves_fanout fun x hx =>
        Behaviour.serves_routed (decides_predicates rfl c r) rfl (each x hx)

theorem Config.Blueprint.serves_over {sinkAt : String → Sink σ} {deliver : String → Delivery}
    (b : Blueprint) {move : Scope → Scope} {c : Context} {r : Record}
    (ends : ∀ name ∈ b.root.references, Behaviour.Serves deliver c r
      ((Node.sink name).accepts b.least? r.level)
      ((Node.sink name).reach b.least? ((move .empty).view r))
      ((sinkAt name).rescope move).behaviour) :
    Behaviour.Serves deliver c r (b.root.accepts b.least? r.level)
      (b.reach ((move .empty).view r)) ((b.treeOver sinkAt).rescope move).behaviour := by
  have root := b.root.serves_over ends
  rw [treeOver]
  split
  · rw [Sink.rescope]
    exact Behaviour.serves_recovered root
  · exact root

theorem Config.Blueprint.serves (b : Blueprint)
    (plain : ∀ name ∈ b.root.references, (leafAt name).Plain (b.least? name))
    (move : Scope → Scope) (c : Context) (r : Record) :
    Behaviour.Serves (deliveryTo leafAt (move .empty) r) c r (b.root.accepts b.least? r.level)
      (b.reach ((move .empty).view r)) ((b.tree leafAt).rescope move).behaviour :=
  b.serves_over fun name h => (plain name h).serves move c r

namespace Call

def move (q : Call) (scope : Scope) : Scope :=
  (q.path.filter Derivation.binds).foldl Scope.derive scope

theorem derive_logger (path : List Derivation) (l : Logger σ) :
    path.foldl Logger.derive l =
      ⟨(path.filter Derivation.binds).foldl Sink.derive l.sink, l.context⟩ := by
  induction path generalizing l with
  | nil => rfl
  | cons d path ih =>
    rw [List.foldl_cons, ih]
    cases d with
    | group name => rfl
    | attrs as => cases as <;> rfl

theorem logger_eq {root : Sink σ} (built : Sink.Built Part.Fresh root) (q : Call) :
    q.logger root = ⟨root.rescope q.move, .background⟩ := by
  have plain : Sink.DerivesPlainly root := fun h hp => built.hooks_fresh hp ▸ ⟨rfl, rfl⟩
  rw [logger, derive_logger, Logger.new, Sink.derive_all_eq_rescope _ built.settled plain]
  rfl

theorem log_eq {root : Sink σ} (built : Sink.Built Part.Fresh root) (q : Call) (w : World σ) :
    q.log root w =
      match (root.rescope q.move).behaviour.enabled .background q.level with
      | .error p => (.panicked p, w)
      | .ok false => (.fine, w)
      | .ok true => (root.rescope q.move).behaviour.handle .background q.record w := by
  rw [log, logger_eq built]
  rfl

theorem log_follows_over {sinkAt : String → Sink σ} {deliver : String → Delivery} {b : Blueprint}
    (fresh : ∀ name ∈ b.root.references, Sink.Built Part.Fresh (sinkAt name)) {q : Call}
    (ends : ∀ name ∈ b.root.references, Behaviour.Serves deliver .background q.record
      ((Node.sink name).accepts b.least? q.level) ((Node.sink name).reach b.least? q.view)
      ((sinkAt name).rescope q.move).behaviour) (w : World σ) :
    ∃ v, q.log (b.treeOver sinkAt) w = (.fine, v) ∧ w.Follows deliver (b.reach q.view) v := by
  have serves : Behaviour.Serves deliver .background q.record
      (b.root.accepts b.least? q.record.level) (b.reach q.view)
      ((b.treeOver sinkAt).rescope q.move).behaviour := by
    rw [view_eq] at ends ⊢
    exact b.serves_over ends
  have enabled : ((b.treeOver sinkAt).rescope q.move).behaviour.enabled .background q.level = .ok _ :=
    serves.enabled
  rw [log_eq (b.fresh_treeOver fresh), enabled]
  generalize b.root.accepts b.least? q.record.level = accepts at serves
  cases accepts with
  | true => exact serves.handle rfl w
  | false =>
    have silent : b.reach q.view = .nowhere := serves.silent rfl
    rw [silent]
    exact ⟨w, rfl, w.adds_nothing.follows_nowhere⟩

theorem log_follows {b : Blueprint}
    (plain : ∀ name ∈ b.root.references, (leafAt name).Plain (b.least? name)) (q : Call)
    (w : World σ) :
    ∃ v, q.log (b.tree leafAt) w = (.fine, v) ∧
      w.Follows (deliveryTo leafAt q.scope q.record) (b.reach q.view) v := by
  refine log_follows_over (fun name h => .leaf (plain name h).scope) (fun name h => ?_) w
  rw [view_eq]
  exact (plain name h).serves q.move .background q.record

end Call

end

theorem recordsOf_append (name : String) (es fs : List (String × Record)) :
    recordsOf name (es ++ fs) = recordsOf name es ++ recordsOf name fs :=
  List.filterMap_append

/-- The part of a stretch that ends in the buffer of one leaf. -/
theorem World.Follows.buffer {leafAt : String → Leaf σ} {i : BufferId} {name : String}
    (own : ∀ other, (leafAt other).buffer? = some i ↔ other = name) {scope : Scope} {r : Record}
    {reach : Reach} {w v : World σ} (follows : w.Follows (deliveryTo leafAt scope r) reach v) :
    v.buffer i = w.buffer i ++
      recordsOf name ((reach w.starts).1.map fun other => (other, scope.view r)) := by
  simp only [World.buffer, follows.deliveries, List.filterMap_append, recordsOf, List.filterMap_map]
  congr 1
  refine List.filterMap_congr fun other _ => ?_
  simp only [Function.comp_apply, deliveryTo, own]

theorem Call.logAll_follows {leafAt : String → Leaf σ} {b : Blueprint}
    (plain : ∀ name ∈ b.root.references, (leafAt name).Plain (b.least? name)) (calls : List Call)
    (w : World σ) :
    ∃ v, logAll (b.tree leafAt) calls w = (calls.map fun _ => .fine, v) ∧
      ∀ i name, (∀ other, (leafAt other).buffer? = some i ↔ other = name) →
        v.buffer i = w.buffer i ++ recordsOf name (b.interpret calls w.starts) := by
  induction calls generalizing w with
  | nil =>
    refine ⟨w, rfl, fun i name _ => ?_⟩
    simp [Blueprint.interpret, recordsOf]
  | cons q rest ih =>
    obtain ⟨v, fine, follows⟩ := log_follows plain q w
    obtain ⟨u, fines, buffers⟩ := ih v
    refine ⟨u, ?_, fun i name own => ?_⟩
    · simp only [logAll, fine, fines, List.map_cons]
    · rw [buffers i name own, follows.buffer own, follows.starts, List.append_assoc,
        ← recordsOf_append, ← q.view_eq]
      rfl

theorem exists_number (next : BufferId) {specs : List SinkSpec} {s : SinkSpec} (hs : s ∈ specs) :
    ∃ i, (s, i) ∈ specs.zipIdx next := by
  rw [← List.zipIdx_map_fst next specs] at hs
  obtain ⟨x, hx, rfl⟩ := List.mem_map.mp hs
  exact ⟨x.2, hx⟩

namespace Config.Blueprint
variable {b : Blueprint}

theorem plain_of_distinct (distinct : (b.sinks.map SinkSpec.name).Nodup) {next : BufferId}
    {x : SinkSpec × BufferId} (hx : x ∈ b.sinks.zipIdx next) :
    (Registry.leafAt next b.sinks x.1.name : Leaf σ).Plain (b.least? x.1.name) := by
  have least : b.least? x.1.name = some x.1.least := by
    rw [least?, find?_of_distinct distinct (List.fst_mem_of_mem_zipIdx hx)]
    rfl
  rw [Registry.leafAt_of_mem distinct hx, least]
  cases kind : x.1.sinkType with
  | log => exact ⟨by simp [Registry.leafOf, kind], _, rfl, .inl (by simp [Registry.leafOf, kind])⟩
  | memory =>
    exact ⟨by simp [Registry.leafOf, kind], _, rfl, .inr ⟨x.2, by simp [Registry.leafOf, kind]⟩⟩

theorem numbered_of_valid (valid : b.validate = .ok ()) (next : BufferId) {name : String}
    (h : name ∈ b.root.references) : ∃ x ∈ b.sinks.zipIdx next, x.1.name = name := by
  obtain ⟨s, hs, same⟩ := List.mem_map.mp (declared_of_valid valid name h)
  obtain ⟨i, hi⟩ := exists_number next hs
  exact ⟨(s, i), hi, same⟩

theorem plain_of_valid (valid : b.validate = .ok ()) (next : BufferId) :
    ∀ name ∈ b.root.references,
      (Registry.leafAt next b.sinks name : Leaf σ).Plain (b.least? name) := by
  intro name h
  obtain ⟨x, hx, rfl⟩ := numbered_of_valid valid next h
  exact plain_of_distinct (distinct_of_valid valid) hx

/-- A registry that holds the declared sinks knows every name of the tree. -/
theorem known_of_valid (valid : b.validate = .ok ()) {next : BufferId} {g : Registry σ}
    (holds : ∀ x ∈ b.sinks.zipIdx next, g.Holds x.1 x.2) :
    ∀ name ∈ b.root.references,
      g.get? name = some (.leaf (Registry.leafAt next b.sinks name)) := by
  intro name h
  obtain ⟨x, hx, rfl⟩ := numbered_of_valid valid next h
  rw [Registry.leafAt_of_mem (distinct_of_valid valid) hx]
  exact (holds x hx).1

/-- A valid configuration is built without an error, over leaves of its own. -/
theorem built_of_valid (valid : b.validate = .ok ()) (next : BufferId) (w : World σ) :
    ∃ g w₁ w₂, Registry.ofBlueprint next b w = (.ok g, w₁) ∧
      g.build b w₁ = (.ok (b.tree (Registry.leafAt next b.sinks)), w₂) ∧
      w.Adds [] w.starts w₂ ∧ ∀ x ∈ b.sinks.zipIdx next, g.Holds x.1 x.2 := by
  obtain ⟨g, w₁, made, adds, holds⟩ := Registry.ofBlueprint_ok (distinct_of_valid valid) next w
  have known := known_of_valid valid holds
  have noted := adds.trans (w₁.adds_note (.treeBuilt g.size))
  rw [adds.starts] at noted
  exact ⟨g, w₁, _, made, b.build_eq_tree known w₁, noted, holds⟩

/-- A valid configuration is built, and every run of its loggers is what the configuration says: no
call fails, and each memory sink has gained the records that the tree of nodes sends to it. -/
theorem runs_as_configured (valid : b.validate = .ok ()) (next : BufferId) (w : World σ) :
    ∃ g root w₁ w₂, Registry.ofBlueprint next b w = (.ok g, w₁) ∧ g.build b w₁ = (.ok root, w₂) ∧
      ∀ calls : List Call,
        (Call.logAll root calls w₂).1 = calls.map (fun _ => .fine) ∧
        ∀ s ∈ b.sinks, s.sinkType = .memory → ∃ h, g.memory? s.name = some h ∧
          (Call.logAll root calls w₂).2.buffer h.buffer =
            w.buffer h.buffer ++ recordsOf s.name (b.interpret calls w.starts) := by
  obtain ⟨g, w₁, w₂, made, built, adds, holds⟩ := built_of_valid valid next w
  refine ⟨g, _, w₁, w₂, made, built, fun calls => ?_⟩
  obtain ⟨v, run, buffers⟩ := Call.logAll_follows (plain_of_valid valid next) calls w₂
  rw [run]
  refine ⟨rfl, fun s hs memory => ?_⟩
  obtain ⟨i, hi⟩ := exists_number next hs
  have own := Registry.buffer_leafAt (σ := σ) (distinct_of_valid valid) hi memory
  have before : w₂.buffer i = w.buffer i := by
    rw [World.buffer, adds.deliveries, List.append_nil, World.buffer]
  refine ⟨_, (holds _ hi).2 memory, ?_⟩
  rw [buffers i s.name own, before, adds.starts]

theorem runs_as_configured_pool :
    let known : Dict Scalar := .ofList [("user.id", .string "u1")]
    let b : Blueprint := ⟨.v1, true, [⟨"a", .memory, .info⟩, ⟨"b", .memory, .warn⟩],
      .router [([.attrValueIs known], .group .pool [.sink "a", .sink "b"]), ([], .sink "a")] true⟩
    let path : List Derivation := [.group "user", .attrs [.mk "id" (.string "u1")]]
    let calls : List Call := [⟨path, ⟨1, 0⟩, .error, "in", [.mk "how" (.string "ssh")]⟩,
      ⟨[], ⟨2, 0⟩, .error, "idle", []⟩]
    b.validate = .ok () ∧
    ∃ g root w₁ w₂, Registry.ofBlueprint 0 b (.start () fun i => i + 1) = (.ok g, w₁) ∧
      g.build b w₁ = (.ok root, w₂) ∧
      ∃ h, g.memory? "b" = some h ∧ (Call.logAll root calls w₂).2.buffer h.buffer =
        [⟨⟨1, 0⟩, .error, "in",
          [.group "user" [.mk "id" (.string "u1")], .group "user" [.mk "how" (.string "ssh")]]⟩] := by
  intro known b path calls
  have valid : b.validate = .ok () := by rfl
  let shown : Record := ⟨⟨1, 0⟩, .error, "in",
    [.group "user" [.mk "id" (.string "u1")], .group "user" [.mk "how" (.string "ssh")]]⟩
  let idle : Record := ⟨⟨2, 0⟩, .error, "idle", []⟩
  have hit : (PredicateSpec.attrValueIs known).holds shown = true := by
    have seen : visits shown.attrs = [⟨"user", .group [.mk "id" (.string "u1")]⟩,
        ⟨"user.id", .string "u1"⟩, ⟨"user", .group [.mk "how" (.string "ssh")]⟩,
        ⟨"user.how", .string "ssh"⟩] := by
      simp [shown, visits, visitsUnder, joinPath, Attr.group]
    rw [PredicateSpec.holds, seen]
    rfl
  have miss : (PredicateSpec.attrValueIs known).holds idle = false := by
    rw [PredicateSpec.holds, visits, visitsUnder]
    rfl
  let starts := (World.start () fun i => i + 1 : World Unit).starts
  have toPool : b.reach shown starts = (["b"], fun i => starts (i + 1)) := by
    simp only [b, Blueprint.reach, Node.reach, Node.matching, List.all_cons, List.all_nil, hit]
    rfl
  have toFirst : ∀ starts, b.reach idle starts = (["a"], starts) := by
    intro starts
    simp only [b, Blueprint.reach, Node.reach, Node.matching, List.all_cons, List.all_nil, miss]
    rfl
  have meant : recordsOf "b" (b.interpret calls (World.start () fun i => i + 1).starts) =
      [shown] := by
    have first : (Call.mk path ⟨1, 0⟩ .error "in" [.mk "how" (.string "ssh")]).view = shown := by rfl
    have second : (Call.mk [] ⟨2, 0⟩ .error "idle" []).view = idle := by rfl
    simp only [calls, Blueprint.interpret, first, second]
    rw [toPool]
    simp only [toFirst]
    rfl
  obtain ⟨g, root, w₁, w₂, made, built, runs⟩ :=
    runs_as_configured valid 0 (World.start () fun i => i + 1)
  obtain ⟨h, held, buffer⟩ := (runs calls).2 ⟨"b", .memory, .warn⟩ (by simp [b]) rfl
  refine ⟨valid, g, root, w₁, w₂, made, built, h, held, ?_⟩
  rw [buffer, meant]
  rfl

end Config.Blueprint
end LogTree
