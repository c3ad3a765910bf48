import LogTree.Proofs.Configured

/-!
When a configuration can be built. The names of the sinks have to be distinct and the names in the
tree have to be among them; otherwise the error says which name is the first that is wrong. What
validation accepts is built, and is enabled as the sinks below allow. Main statement:
`built_iff_declared`.
-/
namespace LogTree
open Config
variable {σ : Type}

namespace Config.Node

theorem member_no_offence_some {names : List String} {a : Address} {strategy : Strategy}
    {ns : List Node} (none : firstNodeOffence names a (.group strategy ns) = none) :
    ∃ n ∈ ns, ∃ b, firstNodeOffence names b n = .none := by
  rw [firstNodeOffence] at none
  cases ns with
  | nil => contradiction
  | cons n rest => exact ⟨n, List.mem_cons_self, member_no_offence none n List.mem_cons_self⟩

theorem target_no_offence_some {names : List String} {a : Address} {first : Bool}
    {rs : List (List PredicateSpec × Node)}
    (none : firstNodeOffence names a (.router rs first) = none) :
    ∃ r ∈ rs, ∃ b, firstNodeOffence names b r.2 = .none := by
  rw [firstNodeOffence] at none
  cases rs with
  | nil => contradiction
  | cons r rest => exact ⟨r, List.mem_cons_self, route_no_offence none r List.mem_cons_self⟩

/-- No node of a valid tree is without children, so some sink stands below. -/
theorem references_of_no_offence {names : List String} (n : Node) {a : Address}
    (none : firstNodeOffence names a n = none) : ∃ name, name ∈ n.references := by
  induction n using induction generalizing a with
  | sink name => exact ⟨name, List.mem_cons_self⟩
  | group strategy members ih =>
    obtain ⟨n, hn, b, hb⟩ := member_no_offence_some none
    obtain ⟨name, h⟩ := ih n hn hb
    exact ⟨name, mem_references_of_member hn h⟩
  | router routes first ih =>
    obtain ⟨r, hr, b, hb⟩ := target_no_offence_some none
    obtain ⟨name, h⟩ := ih r hr hb
    exact ⟨name, mem_references_of_target hr h⟩

end Config.Node

namespace Registry

def Names (g : Registry σ) (names : List String) : Prop :=
  ∀ name, (g.get? name).isSome = true ↔ name ∈ names

theorem create_names {g : Registry σ} {taken : List String} (names : g.Names taken) (s : SinkSpec)
    (buffer : BufferId) :
    (s.name ∈ taken ∧ g.create s buffer = .error (.sinkCreation s.name "duplicate sink name")) ∨
    (s.name ∉ taken ∧ ∃ h, g.create s buffer = .ok h ∧ h.Names (s.name :: taken)) := by
  by_cases again : s.name ∈ taken
  · left
    have there : g.sinks.contains s.name = true := by
      rw [Dict.contains_eq_isSome]
      exact (names s.name).mpr again
    exact ⟨again, by simp only [create, there, if_true]⟩
  · right
    have fresh : g.get? s.name = none := by
      rw [← Option.not_isSome_iff_eq_none]
      exact mt (names s.name).mp again
    obtain ⟨h, created, holds, kept⟩ := create_ok fresh buffer
    refine ⟨again, h, created, fun name => ?_⟩
    by_cases same : name = s.name
    · subst same
      simp [holds.1]
    · rw [(kept name same).1, names name, List.mem_cons]
      simp [same]

/-- A name that is taken by then ends the making of leaves; up to there all were new. -/
theorem createAll_repeated {specs : List SinkSpec} {taken : List String} {g : Registry σ}
    (names : g.Names taken)
    (again : ¬ ((specs.map SinkSpec.name).Nodup ∧ ∀ s ∈ specs, s.name ∉ taken))
    (next : BufferId) (w : World σ) :
    ∃ pre s post v, specs = pre ++ s :: post ∧
      createAll next g specs w = (.error (.sinkCreation s.name "duplicate sink name"), v) ∧
      (pre.map SinkSpec.name).Nodup ∧ (∀ t ∈ pre, t.name ∉ taken) ∧
      (s.name ∈ taken ∨ s.name ∈ pre.map SinkSpec.name) := by
  induction specs generalizing taken g next w with
  | nil => exact absurd ⟨.nil, List.forall_mem_nil _⟩ again
  | cons s rest ih =>
    rcases create_names names s next with ⟨there, failed⟩ | ⟨new, h, created, names'⟩
    · refine ⟨[], s, rest, w, rfl, ?_, .nil, List.forall_mem_nil _, .inl there⟩
      simp only [createAll, failed]
    · have later : ¬ ((rest.map SinkSpec.name).Nodup ∧ ∀ t ∈ rest, t.name ∉ s.name :: taken) := by
        rintro ⟨distinct, fresh⟩
        refine again ⟨List.nodup_cons.mpr ⟨fun h => ?_, distinct⟩, ?_⟩
        · obtain ⟨t, ht, same⟩ := List.mem_map.mp h
          exact fresh t ht (same ▸ List.mem_cons_self)
        · refine List.forall_mem_cons.mpr ⟨new, fun t ht h => ?_⟩
          exact fresh t ht (List.mem_cons_of_mem _ h)
      obtain ⟨pre, t, post, v, split, failed, distinct, fresh, found⟩ :=
        ih names' later (next + 1) (w.note (.leafCreated s.name))
      refine ⟨s :: pre, t, post, v, by rw [split]; rfl, ?_, ?_, ?_, ?_⟩
      · simp only [createAll, created, failed]
      · refine List.nodup_cons.mpr ⟨fun h => ?_, distinct⟩
        obtain ⟨u, hu, same⟩ := List.mem_map.mp h
        exact fresh u hu (same ▸ List.mem_cons_self)
      · refine List.forall_mem_cons.mpr ⟨new, fun u hu h => ?_⟩
        exact fresh u hu (List.mem_cons_of_mem _ h)
      · rw [List.map_cons, List.mem_cons, or_left_comm, ← or_assoc, ← List.mem_cons]
        exact found

end Registry
namespace Config.Blueprint
variable {b : Blueprint}

def assemble (next : BufferId) (b : Blueprint) (w : World σ) :
    Except BuildError (Sink σ) × World σ :=
  match Registry.ofBlueprint next b w with
  | (.ok g, v) => g.build b v
  | (.error e, v) => (.error e, v)

/-- What stands in the way: the first name that is declared again or else the first name of the tree
that is not declared. -/
inductive Fault (b : Blueprint) : BuildError → Prop where
  | repeated {pre post : List String} {name : String} :
    b.sinks.map SinkSpec.name = pre ++ name :: post → pre.Nodup → name ∈ pre →
    Fault b (.sinkCreation name "duplicate sink name")
  | undeclared {name : String} : (b.sinks.map SinkSpec.name).Nodup →
    b.root.undeclared? (b.sinks.map SinkSpec.name) = some name → Fault b (.unknownSink name)

theorem assemble_repeated (again : ¬ (b.sinks.map SinkSpec.name).Nodup) (next : BufferId)
    (w : World σ) : ∃ e v, b.assemble next w = (.error e, v) ∧ b.Fault e := by
  have none_yet : (Registry.empty : Registry σ).Names [] := by
    intro name
    simp [Registry.get?, Registry.empty, Dict.get?, Dict.empty]
  have repeats : ¬ ((b.sinks.map SinkSpec.name).Nodup ∧ ∀ s ∈ b.sinks, s.name ∉ []) :=
    fun h => again h.1
  obtain ⟨pre, s, post, v, split, failed, distinct, _, found⟩ :=
    Registry.createAll_repeated none_yet repeats next w
  have before : s.name ∈ pre.map SinkSpec.name := by
    cases found with
    | inl h => cases h
    | inr h => exact h
  have names : b.sinks.map SinkSpec.name =
      pre.map SinkSpec.name ++ s.name :: post.map SinkSpec.name := by
    rw [split, List.map_append, List.map_cons]
  refine ⟨_, v, ?_, .repeated names distinct before⟩
  simp only [assemble, Registry.ofBlueprint, failed]

/-- With distinct names the leaves are all made, and the tree is what decides. -/
theorem assemble_distinct (distinct : (b.sinks.map SinkSpec.name).Nodup) (next : BufferId)
    (w : World σ) :
    ∃ v, b.assemble next w =
      (Node.builtOr (b.tree (Registry.leafAt next b.sinks))
        (b.root.undeclared? (b.sinks.map SinkSpec.name)), v) := by
  obtain ⟨g, v, made, _, holds, others⟩ :=
    Registry.createAll_ok distinct next (g := .empty) (fun _ _ => rfl) w
  have known : ∀ name ∈ b.sinks.map SinkSpec.name,
      g.get? name = some (.leaf (Registry.leafAt next b.sinks name)) := by
    intro name h
    obtain ⟨s, hs, rfl⟩ := List.mem_map.mp h
    obtain ⟨i, hi⟩ := exists_number next hs
    rw [Registry.leafAt_of_mem distinct hi]
    exact (holds _ hi).1
  have unknown : ∀ name, name ∉ b.sinks.map SinkSpec.name → g.get? name = none :=
    fun name absent => (others name absent).1
  have root := Node.sinkOf_eq_builtOr b.root (fun name _ => known name) fun name _ => unknown name
  simp only [assemble, Registry.ofBlueprint, made, Registry.build, root]
  cases b.root.undeclared? (b.sinks.map SinkSpec.name) with
  | none => exact ⟨_, rfl⟩
  | some name => exact ⟨_, rfl⟩

theorem enabled_derived {leafAt : String → Leaf σ}
    (plain : ∀ name ∈ b.root.references, (leafAt name).Plain (b.least? name))
    (ds : List Derivation) (c : Context) (level : Level) :
    (ds.foldl Sink.derive (b.tree leafAt)).enabled c level =
      .ok (b.root.accepts b.least? level) := by
  have built := b.built_tree fun name h => (plain name h).scope
  have quiet : Sink.DerivesPlainly (b.tree leafAt) := fun h hp => built.hooks_fresh hp ▸ ⟨rfl, rfl⟩
  rw [Sink.derive_all_eq_rescope ds built.settled quiet]
  exact (b.serves plain _ c ⟨default, level, "", []⟩).enabled

theorem accepts_iff (distinct : (b.sinks.map SinkSpec.name).Nodup) (level : Level) :
    b.root.accepts b.least? level = true ↔
      ∃ s ∈ b.sinks, s.name ∈ b.root.references ∧ s.least ≤ level := by
  simp only [Node.accepts, List.any_eq_true]
  constructor
  · rintro ⟨name, h, some_level⟩
    obtain ⟨least, found, low⟩ := (Option.any_eq_true _ _).mp some_level
    obtain ⟨s, hs, rfl⟩ := Option.map_eq_some_iff.mp found
    have named : s.name = name := by simpa using List.find?_some hs
    exact ⟨s, List.mem_of_find?_eq_some hs, named ▸ h, of_decide_eq_true low⟩
  · rintro ⟨s, hs, h, low⟩
    refine ⟨s.name, h, ?_⟩
    rw [least?, find?_of_distinct distinct hs]
    exact decide_eq_true low

/-- Some sink below takes the gravest level, since no node is without children. -/
theorem accepts_error (valid : b.validate = .ok ()) :
    b.root.accepts b.least? .error = true := by
  obtain ⟨name, h⟩ := Node.references_of_no_offence b.root (no_offence_of_valid valid).2
  obtain ⟨s, hs, rfl⟩ := List.mem_map.mp (declared_of_valid valid name h)
  exact (accepts_iff (distinct_of_valid valid) .error).mpr ⟨s, hs, h, s.least.le_error⟩

/-- A configuration is built exactly if the names of its sinks are distinct and cover its tree; else
the error says what stands in the way. A valid one is built, and whatever is derived from the result
is enabled at a level exactly if some sink in the tree takes it, so at the gravest always. -/
theorem built_iff_declared (b : Blueprint) (next : BufferId) (w : World σ) :
    ((∃ root v, b.assemble next w = (.ok root, v)) ↔
      (b.sinks.map SinkSpec.name).Nodup ∧
        ∀ name ∈ b.root.references, name ∈ b.sinks.map SinkSpec.name) ∧
    (∀ e v, b.assemble next w = (.error e, v) → b.Fault e) ∧
    (b.validate = .ok () → ∃ root v, b.assemble next w = (.ok root, v) ∧
      ∀ (ds : List Derivation) (c : Context),
        (∀ level, ∃ on, (ds.foldl Sink.derive root).enabled c level = .ok on ∧
          (on = true ↔ ∃ s ∈ b.sinks, s.name ∈ b.root.references ∧ s.least ≤ level)) ∧
        (ds.foldl Sink.derive root).enabled c .error = .ok true) := by
  by_cases distinct : (b.sinks.map SinkSpec.name).Nodup
  · obtain ⟨v, built⟩ := assemble_distinct distinct next w
    rw [built]
    cases missing : b.root.undeclared? (b.sinks.map SinkSpec.name) with
    | some name =>
      have not_declared : ¬ ∀ name ∈ b.root.references, name ∈ b.sinks.map SinkSpec.name := by
        rw [← Node.undeclared?_eq_none, missing]
        exact fun same => by cases same
      refine ⟨⟨by rintro ⟨_, _, ⟨⟩⟩, fun h => absurd h.2 not_declared⟩, ?_, ?_⟩
      · rintro e u ⟨⟩
        exact .undeclared distinct missing
      · exact fun valid => absurd (declared_of_valid valid) not_declared
    | none =>
      have declared := Node.undeclared?_eq_none.mp missing
      refine ⟨⟨fun _ => ⟨distinct, declared⟩, fun _ => ⟨_, v, rfl⟩⟩, by rintro _ _ ⟨⟩, ?_⟩
      intro valid
      refine ⟨_, v, rfl, fun ds c => ⟨fun level => ?_, ?_⟩⟩
      · exact ⟨_, enabled_derived (plain_of_valid valid next) ds c level,
          accepts_iff distinct level⟩
      · rw [enabled_derived (plain_of_valid valid next), accepts_error valid]
  · obtain ⟨e, v, failed, fault⟩ := assemble_repeated distinct next w
    rw [failed]
    refine ⟨⟨by rintro ⟨_, _, ⟨⟩⟩, fun h => absurd h.1 distinct⟩, ?_, ?_⟩
    · rintro _ _ ⟨⟩
      exact fault
    · exact fun valid => absurd (distinct_of_valid valid) distinct

theorem built_iff_declared_nested :
    let b : Blueprint := ⟨.v1, true, [⟨"a", .memory, .warn⟩, ⟨"b", .log, .error⟩],
      .group .failover [.router [([.levelIs [.warn]], .sink "a")] false, .sink "b"]⟩
    let ds : List Derivation := [.group "g", .attrs [.mk "k" (.bool true)]]
    b.validate = .ok () ∧
    ∃ root v, b.assemble 0 (World.start () fun _ => 0) = (.ok root, v) ∧
      (ds.foldl Sink.derive root).enabled .background .error = .ok true := by
  intro b ds
  have valid : b.validate = .ok () := by rfl
  obtain ⟨_, _, accepted⟩ := built_iff_declared b 0 (World.start () fun _ => 0)
  obtain ⟨root, v, built, enabled⟩ := accepted valid
  exact ⟨valid, root, v, built, (enabled ds .background).2⟩

end Config.Blueprint
end LogTree
