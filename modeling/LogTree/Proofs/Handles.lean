import LogTree.Proofs.Assembly
import LogTree.Proofs.Metered
import LogTree.Proofs.Wrapped

/-!
Looks into memory leaves. Whatever is registered and whatever is put around the leaves, a handle of the
registry belongs to the sink that stands under its name at the time: what that sink accepts is found
through the handle, and through no other. Main statement: `handles_never_stale`.
-/
namespace LogTree
open Config
variable {σ : Type}

theorem Dict.get?_erase {α : Type} (d : Dict α) (key k : String) :
    (d.erase key).get? k = if key = k then none else d.get? k := by
  have both : ∀ e : String × α, decide ((e.1 != key) = true ∧ (e.1 == k) = true) =
      if key = k then false else e.1 == k := by
    intro e
    split <;> grind
  simp only [get?, erase, List.find?_filter, both]
  split
  · simp
  · rfl

/-- The behaviour accepts records from the level of the handle on. The buffer of the handle gets each one
that is accepted, as the scope shows it, and no record changes another buffer. -/
structure Behaviour.Feeds (scope : Scope) (m : MemoryHandle) (b : Behaviour σ) : Prop where
  accepts : ∀ c level, b.enabled c level = .ok (m.least ≤ level)
  handles : ∀ c r w, ∃ v, b.handle c r w = (.fine, v) ∧
    (m.least ≤ r.level → v.buffer m.buffer = w.buffer m.buffer ++ [scope.view r]) ∧
    ∀ other, other ≠ m.buffer → v.buffer other = w.buffer other

/-- Whatever is derived from the sink feeds the buffer, from a scope that was derived in the same way. -/
def Sink.Feeds (s : Sink σ) (m : MemoryHandle) : Prop :=
  ∀ ds : List Derivation, (ds.foldl derive s).behaviour.Feeds (ds.foldl Scope.derive .empty) m

theorem World.buffer_deliver (w : World σ) (d : Delivery) (b : BufferId) :
    (w.deliver d).buffer b =
      w.buffer b ++ if d.buffer = some b then [d.scope.view d.record] else [] := by
  simp only [buffer, deliver, Array.toList_push, List.filterMap_append]
  split <;> simp [*]

theorem Leaf.feeds (name : String) (scope : Scope) (m : MemoryHandle) :
    (⟨name, scope, .memory m.least m.buffer⟩ : Leaf σ).behaviour.Feeds scope m where
  accepts _ _ := rfl
  handles c r w := by
    refine ⟨w.deliver ⟨name, scope, r, some m.buffer⟩, rfl, fun _ => ?_, fun other differs => ?_⟩
    · rw [World.buffer_deliver, if_pos rfl]
    · rw [World.buffer_deliver, if_neg fun same => differs (Option.some.inj same).symm,
        List.append_nil]

theorem Sink.feeds_leaf (name : String) (m : MemoryHandle) :
    (leaf ⟨name, .empty, .memory m.least m.buffer⟩ : Sink σ).Feeds m := by
  intro ds
  rw [derived_leaf]
  exact Leaf.feeds name _ m

namespace Wrapper

theorem derive_wrap (x : Wrapper σ) (s : Sink σ) (d : Derivation) :
    (x.wrap s).derive d = (x.rescope (·.derive d)).wrap (s.derive d) := by
  cases x with
  | recovery x => exact Sink.derive_recovered d x s
  | meter m => exact Sink.derive_metered d m s
  | route scope => exact Sink.derive_routed d _ s
  | middleware =>
    have through : Hooks.none.through d = d := by
      cases d with
      | attrs as => rfl
      | group name => simp [Hooks.through, Hooks.none]
    simp only [wrap, rescope, Sink.derive_hooked, through]

theorem derived_wrap (ds : List Derivation) (x : Wrapper σ) (s : Sink σ) :
    ∃ y : Wrapper σ, ds.foldl Sink.derive (x.wrap s) = y.wrap (ds.foldl Sink.derive s) := by
  induction ds generalizing x s with
  | nil => exact ⟨x, rfl⟩
  | cons d ds ih =>
    rw [List.foldl_cons, derive_wrap]
    exact ih _ _

/-- Nothing fails below, so a recovery has nothing to do. -/
theorem feeds_behaviour_wrap {scope : Scope} {m : MemoryHandle} {s : Sink σ}
    (feeds : s.behaviour.Feeds scope m) (x : Wrapper σ) :
    (x.wrap s).behaviour.Feeds scope m where
  accepts c level := by
    rw [enabled_wrap]
    exact feeds.accepts c level
  handles c r w := by
    obtain ⟨v, fine, own, others⟩ := feeds.handles c r w
    cases x with
    | middleware => exact ⟨v, fine, own, others⟩
    | route scope => exact ⟨v, fine, own, others⟩
    | recovery x =>
      refine ⟨v, ?_, own, others⟩
      simp only [wrap, Sink.behaviour, Behaviour.recovered, Behaviour.guarded, fine]
    | meter meter =>
      simp only [wrap, Sink.behaviour, Behaviour.metered, feeds.accepts, Behaviour.guarded, fine]
      by_cases accepted : m.least ≤ r.level
      · rw [decide_eq_true accepted]
        exact ⟨v.tick meter .handled, rfl, own, others⟩
      · rw [decide_eq_false accepted]
        exact ⟨w.tick meter .filtered, rfl, fun yes => absurd yes accepted, fun _ _ => rfl⟩

theorem feeds_wrap {m : MemoryHandle} {s : Sink σ} (feeds : s.Feeds m) (x : Wrapper σ) :
    (x.wrap s).Feeds m := by
  intro ds
  obtain ⟨y, derived⟩ := derived_wrap ds x s
  rw [derived]
  exact feeds_behaviour_wrap (feeds ds) y

theorem feeds_wraps {m : MemoryHandle} {s : Sink σ} (feeds : s.Feeds m) (xs : List (Wrapper σ)) :
    (xs.foldr wrap s).Feeds m := by
  induction xs with
  | nil => exact feeds
  | cons x xs ih => exact feeds_wrap ih x

end Wrapper

namespace Registry

theorem get?_register (g : Registry σ) (name : String) (s : Sink σ) (other : String) :
    (g.register name s).get? other = if name = other then some s else g.get? other :=
  Dict.get?_insert g.sinks name s other

theorem memory?_register (g : Registry σ) (name : String) (s : Sink σ) (other : String) :
    (g.register name s).memory? other = if name = other then none else g.memory? other :=
  Dict.get?_erase g.memory name other

theorem get?_mapLeaves (g : Registry σ) (f : String → Sink σ → Sink σ) (name : String) :
    (g.mapLeaves f).get? name = (g.get? name).map (f name) :=
  Dict.get?_mapValues g.sinks f name

/-- What may happen to a registry that was made: another leaf takes a name over, or wrappers are put
around every leaf. -/
inductive Change (σ : Type) where
  | register (name : String) (s : Sink σ)
  | wrap (around : String → Sink σ → List (Wrapper σ))

def Change.apply (g : Registry σ) : Change σ → Registry σ
  | .register name s => g.register name s
  | .wrap around => g.mapLeaves fun name s => (around name s).foldr Wrapper.wrap s

def after (g : Registry σ) (cs : List (Change σ)) : Registry σ := cs.foldl Change.apply g

theorem get?_after (cs : List (Change σ)) (g : Registry σ) (name : String) :
    ((g.after cs).get? name).isSome ↔ (g.get? name).isSome ∨ ∃ s, .register name s ∈ cs := by
  induction cs generalizing g with
  | nil => simp [after]
  | cons c cs ih =>
    have step : ((c.apply g).get? name).isSome ↔
        (g.get? name).isSome ∨ ∃ s, c = .register name s := by
      cases c with
      | register taken s =>
        rw [Change.apply, get?_register]
        by_cases same : taken = name <;> simp [same]
      | wrap around =>
        rw [Change.apply, get?_mapLeaves]
        simp
    rw [after, List.foldl_cons, ← after, ih, step, or_assoc, ← exists_or]
    simp only [List.mem_cons, eq_comm]

/-- A handle lasts until its name is registered anew. -/
theorem memory?_after (cs : List (Change σ)) (g : Registry σ) (name : String) (m : MemoryHandle) :
    (g.after cs).memory? name = some m ↔
      g.memory? name = some m ∧ ∀ s, .register name s ∉ cs := by
  induction cs generalizing g with
  | nil => simp [after]
  | cons c cs ih =>
    have step : (c.apply g).memory? name = some m ↔
        g.memory? name = some m ∧ ∀ s, c ≠ .register name s := by
      cases c with
      | register taken s =>
        rw [Change.apply, memory?_register]
        by_cases same : taken = name <;> simp [same]
      | wrap around => simp [Change.apply, mapLeaves, memory?]
    rw [after, List.foldl_cons, ← after, ih, step, and_assoc, ← forall_and]
    simp only [List.mem_cons, not_or, ne_eq, eq_comm]

/-- Every handle belongs to the sink of its name. -/
def Current (g : Registry σ) : Prop :=
  ∀ name m, g.memory? name = some m → ∃ s, g.get? name = some s ∧ s.Feeds m

theorem Current.apply {g : Registry σ} (current : g.Current) (c : Change σ) :
    (c.apply g).Current := by
  intro name m look
  cases c with
  | register taken s =>
    rw [Change.apply, memory?_register] at look
    split at look
    · contradiction
    · rename_i differs
      obtain ⟨t, found, feeds⟩ := current name m look
      refine ⟨t, ?_, feeds⟩
      rw [Change.apply, get?_register, if_neg differs, found]
  | wrap around =>
    obtain ⟨s, found, feeds⟩ := current name m look
    refine ⟨(around name s).foldr Wrapper.wrap s, ?_, Wrapper.feeds_wraps feeds _⟩
    rw [Change.apply, get?_mapLeaves, found, Option.map_some]

theorem Current.after {g : Registry σ} (current : g.Current) (cs : List (Change σ)) :
    (g.after cs).Current := by
  induction cs generalizing g with
  | nil => exact current
  | cons c cs ih => exact ih (current.apply c)

section
variable {next : BufferId} {b : Blueprint} {w v : World σ} {g : Registry σ}

theorem made_of_ok (made : ofBlueprint next b w = (.ok g, v)) :
    (b.sinks.map SinkSpec.name).Nodup ∧ g.Made next b := by
  have distinct : (b.sinks.map SinkSpec.name).Nodup := by
    by_contra again
    have none_yet : (empty : Registry σ).Names [] := by
      intro name
      simp [get?, empty, Dict.get?, Dict.empty]
    obtain ⟨_, _, _, _, _, failed, _⟩ :=
      createAll_repeated none_yet (fun h => again h.1) next w
    rw [ofBlueprint, failed] at made
    cases made
  obtain ⟨h, u, made', _, _, registry⟩ := ofBlueprint_made (fun _ => 0) distinct next w
  obtain ⟨same, _⟩ := Prod.mk.inj (made.symm.trans made')
  exact ⟨distinct, Except.ok.inj same ▸ registry⟩

/-- The memory sinks have handles, with the buffers in the order of declaration. -/
theorem memory?_ofBlueprint (made : ofBlueprint next b w = (.ok g, v)) (name : String)
    (m : MemoryHandle) : g.memory? name = some m ↔
      ∃ x ∈ b.sinks.zipIdx next, x.1.name = name ∧ x.1.sinkType = .memory ∧
        m = ⟨x.1.least, x.2⟩ := by
  obtain ⟨_, registry⟩ := made_of_ok made
  constructor
  · intro look
    have held : (g.memory? name).isSome = true := look ▸ rfl
    rcases memory_createAll made held with before | ⟨s, hs, rfl, memory⟩
    · contradiction
    · obtain ⟨i, hi⟩ := exists_number next hs
      have own := (registry.holds _ hi).2 memory
      exact ⟨_, hi, rfl, memory, Option.some.inj (look.symm.trans own)⟩
  · rintro ⟨x, hx, rfl, memory, rfl⟩
    exact (registry.holds x hx).2 memory

theorem current_ofBlueprint (made : ofBlueprint next b w = (.ok g, v)) : g.Current := by
  intro name m look
  obtain ⟨x, hx, rfl, memory, rfl⟩ := (memory?_ofBlueprint made name m).mp look
  refine ⟨_, ((made_of_ok made).2.holds x hx).1, ?_⟩
  rw [leafOf, memory]
  exact Sink.feeds_leaf x.1.name ⟨x.1.least, x.2⟩

theorem get?_ofBlueprint (made : ofBlueprint next b w = (.ok g, v)) (name : String) :
    (g.get? name).isSome ↔ ∃ s ∈ b.sinks, s.name = name := by
  rw [get?, Dict.isSome_get?, ← List.mem_map]
  exact (made_of_ok made).2.names.mem_iff

/-- No two names look into one buffer. -/
theorem buffers_apart (made : ofBlueprint next b w = (.ok g, v)) {name other : String}
    {m n : MemoryHandle} (look : g.memory? name = some m) (look' : g.memory? other = some n)
    (same : n.buffer = m.buffer) : other = name := by
  obtain ⟨x, hx, rfl, _, rfl⟩ := (memory?_ofBlueprint made name m).mp look
  obtain ⟨y, hy, rfl, _, rfl⟩ := (memory?_ofBlueprint made other n).mp look'
  obtain ⟨_, hx⟩ := List.mk_mem_zipIdx_iff_le_and_getElem?_sub.mp hx
  obtain ⟨_, hy⟩ := List.mk_mem_zipIdx_iff_le_and_getElem?_sub.mp hy
  have number : y.2 = x.2 := same
  rw [number, hx] at hy
  rw [Option.some.inj hy]

end

/-- However a registry is changed after it was made, its names are the declared and the registered ones
in rising order, and each has a sink. A memory sink keeps the handle it was given for as long as nobody
registers its name. The sink that then stands under the name feeds the buffer of that handle and of no
other, and registering a name takes away its own handle only. -/
theorem handles_never_stale {next : BufferId} {b : Blueprint} {w v : World σ} {g : Registry σ}
    (made : ofBlueprint next b w = (.ok g, v)) (cs : List (Change σ)) :
    let h := g.after cs
    h.names.Pairwise (· < ·) ∧
    (∀ name, (name ∈ h.names ↔ (h.get? name).isSome) ∧
      (name ∈ h.names ↔ (∃ s ∈ b.sinks, s.name = name) ∨ ∃ s, .register name s ∈ cs)) ∧
    (∀ name m, h.memory? name = some m ↔
      (∃ x ∈ b.sinks.zipIdx next, x.1.name = name ∧ x.1.sinkType = .memory ∧
        m = ⟨x.1.least, x.2⟩) ∧ ∀ s, .register name s ∉ cs) ∧
    (∀ name m, h.memory? name = some m → ∃ s, h.get? name = some s ∧ s.Feeds m ∧
      ∀ other n, other ≠ name → h.memory? other = some n → n.buffer ≠ m.buffer) ∧
    ∀ name s, (h.register name s).memory? name = none ∧
      ∀ other, other ≠ name → (h.register name s).memory? other = h.memory? other := by
  intro h
  have there : ∀ name, name ∈ h.names ↔ (h.get? name).isSome := fun _ => Dict.isSome_get?.symm
  refine ⟨h.sorted_names, fun name => ⟨there name, ?_⟩, fun name m => ?_, fun name m look => ?_,
    fun name s => ⟨?_, fun other differs => ?_⟩⟩
  · rw [there, get?_after, get?_ofBlueprint made]
  · rw [memory?_after, memory?_ofBlueprint made]
  · obtain ⟨s, found, feeds⟩ := (current_ofBlueprint made).after cs name m look
    refine ⟨s, found, feeds, fun other n differs look' same => differs ?_⟩
    exact buffers_apart made ((memory?_after cs g name m).mp look).1
      ((memory?_after cs g other n).mp look').1 same
  · rw [memory?_register, if_pos rfl]
  · rw [memory?_register, if_neg differs.symm]

/-- Every leaf is metered and recovered, then one name is taken over and another wrapped once more. -/
theorem handles_never_stale_replaced :
    let b : Blueprint := ⟨.v1, false, [⟨"b", .memory, .trace⟩, ⟨"a", .memory, .info⟩,
      ⟨"c", .log, .error⟩], .sink "a"⟩
    let cs : List (Change Unit) := [.wrap fun _ _ => [.meter 0, .recovery .logging],
      .register "b" (.leaf ⟨"b", .empty, .log .warn⟩),
      .wrap fun name _ => if name = "a" then [.middleware] else []]
    let ds : List Derivation := [.group "g", .attrs [.mk "k" (.bool true)]]
    let r : Record := ⟨⟨0, 0⟩, .warn, "m", []⟩
    ∃ g v, ofBlueprint 3 b (World.start () fun _ => 0) = (.ok g, v) ∧
      (g.after cs).memory? "a" = some ⟨.info, 4⟩ ∧ (g.after cs).memory? "b" = none ∧
      ((g.after cs).register "a" (.failover [])).memory? "a" = none ∧
      ∃ s, (g.after cs).get? "a" = some s ∧ s.Feeds ⟨.info, 4⟩ ∧
        ∃ u, (ds.foldl Sink.derive s).handle .background r v = (.fine, u) ∧
          u.buffer 4 = v.buffer 4 ++ [(ds.foldl Scope.derive .empty).view r] := by
  intro b cs ds r
  have made : ∃ g v, ofBlueprint 3 b (World.start () fun _ => 0) = (.ok g, v) := ⟨_, _, rfl⟩
  obtain ⟨g, v, made⟩ := made
  obtain ⟨_, _, memory, current, register⟩ := handles_never_stale made cs
  have look : (g.after cs).memory? "a" = some ⟨.info, 4⟩ := by
    refine (memory "a" _).mpr ⟨⟨_, .tail _ (.head _), rfl, rfl, rfl⟩, fun s => ?_⟩
    simp [cs]
  have taken : (g.after cs).memory? "b" = none := by
    refine Option.eq_none_iff_forall_ne_some.mpr fun m look => ?_
    exact ((memory "b" m).mp look).2 _ (.tail _ (.head _))
  obtain ⟨s, found, feeds, _⟩ := current "a" _ look
  obtain ⟨u, fine, own, _⟩ := (feeds ds).handles .background r v
  have accepted : Level.info ≤ r.level := by decide
  exact ⟨g, v, made, look, taken, (register "a" _).1, s, found, feeds, u, fine, own accepted⟩

end Registry
end LogTree
