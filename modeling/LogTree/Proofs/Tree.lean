import LogTree.Sink
import Mathlib.Data.List.Basic

/-!
The shape of a tree of sinks: an induction principle, the parts a tree is made of, and one function
behind both ways to derive. Deriving flattens fan-outs again, so `rescope_fanout` is where the work is.
-/
namespace LogTree
variable {σ : Type}

namespace Sink

/-- What holds of a node as soon as it holds of its children holds of every tree. -/
@[elab_as_elim]
theorem induction {motive : Sink σ → Prop}
    (leaf : ∀ l, motive (.leaf l))
    (spread : ∀ ms, (∀ s ∈ ms, motive s) → motive (.spread ms))
    (failover : ∀ ms, (∀ s ∈ ms, motive s) → motive (.failover ms))
    (pool : ∀ ms, (∀ s ∈ ms, motive s) → motive (.pool ms))
    (routed : ∀ g t, motive t → motive (.routed g t))
    (firstMatch : ∀ rs : List (Guard σ × Sink σ), (∀ r ∈ rs, motive r.2) → motive (.firstMatch rs))
    (recovered : ∀ recovery s, motive s → motive (.recovered recovery s))
    (metered : ∀ m s, motive s → motive (.metered m s))
    (hooked : ∀ h s, motive s → motive (.hooked h s)) (s : Sink σ) : motive s := by
  refine @Sink.rec σ motive (fun ms => ∀ s ∈ ms, motive s)
    (fun rs => ∀ r ∈ rs, motive r.2) (fun r => motive r.2)
    leaf spread failover pool routed firstMatch recovered metered hooked ?_ ?_ ?_ ?_ ?_ s
  · exact fun _ hs => absurd hs List.not_mem_nil
  · exact fun _ _ first others => List.forall_mem_cons.mpr ⟨first, others⟩
  · exact fun _ hr => absurd hr List.not_mem_nil
  · exact fun _ _ first others => List.forall_mem_cons.mpr ⟨first, others⟩
  · exact fun _ _ target => target

end Sink

/-- An empty group name apart. -/
@[elab_as_elim]
theorem Derivation.by_name {motive : Derivation → Prop} (attrs : ∀ as, motive (.attrs as))
    (unnamed : motive (.group "")) (named : ∀ name, name ≠ "" → motive (.group name))
    (d : Derivation) : motive d := by
  cases d with
  | attrs as => exact attrs as
  | group name =>
    by_cases h : name = ""
    · exact h ▸ unnamed
    · exact named name h

inductive Part (σ : Type) where
  | leaf (leaf : Leaf σ)
  | guard (guard : Guard σ)
  | recovery (recovery : Recovery σ)
  | meter (meter : MeterId)
  | hooks (hooks : Hooks)

def Part.scope? : Part σ → Option Scope
  | .leaf l => some l.scope
  | .guard g => some g.scope
  | _ => none

def Part.hooks? : Part σ → Option Hooks
  | .hooks h => some h
  | _ => none

/-- What a call of the leaf with a record is known by. -/
def Leaf.delivery (l : Leaf σ) (r : Record) : Delivery := ⟨l.name, l.scope, r, l.buffer?⟩

theorem Leaf.deliveries_handle (l : Leaf σ) (c : Context) (r : Record) (w : World σ) :
    (l.behaviour.handle c r w).2.deliveries = w.deliveries.push (l.delivery r) := by
  simp only [behaviour, react]
  cases l.kind <;> rfl

def Leaf.rescope (f : Scope → Scope) (l : Leaf σ) : Leaf σ := { l with scope := f l.scope }

def Guard.rescope (f : Scope → Scope) (g : Guard σ) : Guard σ := { g with scope := f g.scope }

def Part.rescope (f : Scope → Scope) : Part σ → Part σ
  | .leaf l => .leaf (l.rescope f)
  | .guard g => .guard (g.rescope f)
  | other => other

namespace Sink

mutual

/-- The parts from left to right; a guard comes before what it guards. -/
@[simp] def parts : Sink σ → List (Part σ)
  | .leaf l => [.leaf l]
  | .spread ms => partsEach ms
  | .failover ms => partsEach ms
  | .pool ms => partsEach ms
  | .routed g t => .guard g :: parts t
  | .firstMatch rs => partsRoutes rs
  | .recovered recovery s => .recovery recovery :: parts s
  | .metered m s => .meter m :: parts s
  | .hooked h s => .hooks h :: parts s

def partsEach : List (Sink σ) → List (Part σ)
  | [] => []
  | s :: rest => parts s ++ partsEach rest

def partsRoutes : List (Guard σ × Sink σ) → List (Part σ)
  | [] => []
  | (g, s) :: rest => .guard g :: parts s ++ partsRoutes rest

end

mutual

/-- Changes the scope of every leaf and every guard, and builds the nodes anew as deriving does. -/
@[simp] def rescope (f : Scope → Scope) : Sink σ → Sink σ
  | .leaf l => .leaf (l.rescope f)
  | .spread ms => fanout (rescopeEach f ms)
  | .failover ms => .failover (rescopeEach f ms)
  | .pool ms => .pool (rescopeEach f ms)
  | .routed g t => .routed (g.rescope f) (rescope f t)
  | .firstMatch rs => firstMatchOf (rescopeRoutes f rs)
  | .recovered recovery s => .recovered recovery (rescope f s)
  | .metered m s => .metered m (rescope f s)
  | .hooked h s => .hooked h (rescope f s)

def rescopeEach (f : Scope → Scope) : List (Sink σ) → List (Sink σ)
  | [] => []
  | s :: rest => rescope f s :: rescopeEach f rest

def rescopeRoutes (f : Scope → Scope) : List (Guard σ × Sink σ) → List (Guard σ × Sink σ)
  | [] => []
  | (g, s) :: rest => (g.rescope f, rescope f s) :: rescopeRoutes f rest

end

theorem partsEach_eq_flatMap (ms : List (Sink σ)) : partsEach ms = ms.flatMap parts := by
  induction ms with
  | nil => simp [partsEach]
  | cons s rest ih => simp [partsEach, ih]

theorem partsRoutes_eq_flatMap (rs : List (Guard σ × Sink σ)) :
    partsRoutes rs = rs.flatMap fun r => .guard r.1 :: r.2.parts := by
  induction rs with
  | nil => simp [partsRoutes]
  | cons r rest ih => simp [partsRoutes, ih]

theorem rescopeEach_eq_map (f : Scope → Scope) (ms : List (Sink σ)) :
    rescopeEach f ms = ms.map (rescope f) := by
  induction ms with
  | nil => simp [rescopeEach]
  | cons s rest ih => simp [rescopeEach, ih]

theorem rescopeRoutes_eq_map (f : Scope → Scope) (rs : List (Guard σ × Sink σ)) :
    rescopeRoutes f rs = rs.map fun r => (r.1.rescope f, r.2.rescope f) := by
  induction rs with
  | nil => simp [rescopeRoutes]
  | cons r rest ih => simp [rescopeRoutes, ih]

theorem withAttrsRoutes_eq_map (attrs : List Attr) (rs : List (Guard σ × Sink σ)) :
    withAttrsRoutes attrs rs = rs.map fun r => (r.1.withAttrs attrs, r.2.withAttrs attrs) := by
  induction rs with
  | nil => simp [withAttrsRoutes]
  | cons r rest ih => simp [withAttrsRoutes, ih]

theorem withGroupRoutes_eq_map (name : Key) (rs : List (Guard σ × Sink σ)) :
    withGroupRoutes name rs = rs.map fun r => (r.1.withGroup name, r.2.withGroup name) := by
  induction rs with
  | nil => simp [withGroupRoutes]
  | cons r rest ih => simp [withGroupRoutes, ih]

/-- What a tree brings into a fan-out that it becomes a member of. -/
def members (s : Sink σ) : List (Sink σ) := s.fanoutMembers?.getD [s]

theorem flatten_eq_flatMap (ms : List (Sink σ)) : flatten ms = ms.flatMap members := rfl

theorem flatten_cons (s : Sink σ) (ms : List (Sink σ)) :
    flatten (s :: ms) = s.members ++ flatten ms := rfl

theorem flatten_append (ms ns : List (Sink σ)) : flatten (ms ++ ns) = flatten ms ++ flatten ns := by
  simp only [flatten_eq_flatMap, List.flatMap_append]

theorem members_of_no_fanout {s : Sink σ} (h : s.fanoutMembers? = none) : s.members = [s] := by
  simp [members, h]

theorem flatten_of_no_fanout {ms : List (Sink σ)} (flat : ∀ s ∈ ms, s.fanoutMembers? = none) :
    flatten ms = ms := by
  induction ms with
  | nil => rfl
  | cons s ms ih =>
    obtain ⟨first, others⟩ := List.forall_mem_cons.mp flat
    rw [flatten_cons, members_of_no_fanout first, ih others]
    rfl

/-- Routes keep fan-outs behind them apart. -/
theorem flatten_routed (rs : List (Guard σ × Sink σ)) :
    flatten (rs.map fun r => .routed r.1 r.2) = rs.map fun r => .routed r.1 r.2 :=
  flatten_of_no_fanout (List.forall_mem_map.mpr fun _ _ => rfl)

theorem fanout_single {ms : List (Sink σ)} {s : Sink σ} (h : flatten ms = [s]) : fanout ms = s := by
  simp [fanout, h]

theorem fanout_many {ms : List (Sink σ)} (h : (flatten ms).length ≠ 1) :
    fanout ms = .spread (flatten ms) := by
  unfold fanout
  split
  · rename_i only single
    exact absurd (congrArg List.length single) h
  · rfl

theorem fanout_congr {ms ns : List (Sink σ)} (h : flatten ms = flatten ns) :
    fanout ms = fanout ns := by
  simp only [fanout, h]

theorem members_fanout {ms : List (Sink σ)} (flat : ∀ s ∈ flatten ms, s.fanoutMembers? = none) :
    (fanout ms).members = flatten ms := by
  by_cases one : (flatten ms).length = 1
  · obtain ⟨s, hs⟩ := List.length_eq_one_iff.mp one
    rw [fanout_single hs, hs]
    exact members_of_no_fanout (flat s (by simp [hs]))
  · rw [fanout_many one]
    rfl

theorem no_fanout_member_rescope (f : Scope → Scope) (s : Sink σ) :
    ∀ m ∈ (s.rescope f).members, m.fanoutMembers? = none := by
  induction s using induction with
  | spread ms ih =>
    have flat : ∀ m ∈ flatten (ms.map (rescope f)), m.fanoutMembers? = none := by
      intro m hm
      simp only [flatten_eq_flatMap, List.mem_flatMap, List.mem_map] at hm
      obtain ⟨_, ⟨s, hs, rfl⟩, hm⟩ := hm
      exact ih s hs m hm
    rw [rescope, rescopeEach_eq_map, members_fanout flat]
    exact flat
  | _ =>
    intro m hm
    simp only [rescope, firstMatchOf, members, fanoutMembers?, Option.getD_none,
      List.mem_singleton] at hm
    subst hm
    rfl

theorem members_rescope (f : Scope → Scope) (s : Sink σ) :
    (s.rescope f).members = flatten (s.members.map (rescope f)) := by
  cases s with
  | spread ms =>
    rw [rescope, rescopeEach_eq_map, members_fanout]
    · rfl
    · intro m hm
      simp only [flatten_eq_flatMap, List.mem_flatMap, List.mem_map] at hm
      obtain ⟨_, ⟨s, _, rfl⟩, hm⟩ := hm
      exact no_fanout_member_rescope f s m hm
  | _ => simp [rescope, firstMatchOf, members, fanoutMembers?, flatten]

theorem flatten_map_rescope (f : Scope → Scope) (ms : List (Sink σ)) :
    flatten (ms.map (rescope f)) = flatten ((flatten ms).map (rescope f)) := by
  induction ms with
  | nil => rfl
  | cons s rest ih => simp [flatten_cons, flatten_append, members_rescope, ih]

theorem fanout_rescope (f : Scope → Scope) (s : Sink σ) :
    fanout [s.rescope f] = s.rescope f := by
  cases s with
  | spread ms =>
    have same : flatten [(Sink.spread ms).rescope f] = flatten (ms.map (rescope f)) := by
      rw [flatten_eq_flatMap, List.flatMap_singleton, members_rescope]
      rfl
    rw [fanout_congr same, rescope, rescopeEach_eq_map]
  | _ => exact fanout_single rfl

/-- Deriving a fan-out derives its members as they were given, whatever was flattened since. -/
theorem rescope_fanout (f : Scope → Scope) (ms : List (Sink σ)) :
    (fanout ms).rescope f = fanout (ms.map (rescope f)) := by
  rw [fanout_congr (flatten_map_rescope f ms)]
  by_cases one : (flatten ms).length = 1
  · obtain ⟨s, hs⟩ := List.length_eq_one_iff.mp one
    rw [fanout_single hs, hs, List.map_singleton, fanout_rescope]
  · rw [fanout_many one, rescope, rescopeEach_eq_map]

theorem rescope_firstMatchOf (f : Scope → Scope) (rs : List (Guard σ × Sink σ)) :
    (firstMatchOf rs).rescope f = firstMatchOf (rs.map fun r => (r.1.rescope f, r.2.rescope f)) := by
  simp [firstMatchOf, rescope, rescopeRoutes_eq_map, Guard.rescope, Guard.skipping]

theorem rescope_rescope (f g : Scope → Scope) (s : Sink σ) :
    (s.rescope f).rescope g = s.rescope (g ∘ f) := by
  induction s using induction with
  | leaf l => rfl
  | spread ms ih =>
    simp only [rescope, rescopeEach_eq_map, rescope_fanout, List.map_map]
    exact congrArg fanout (List.map_congr_left ih)
  | failover ms ih | pool ms ih =>
    simp only [rescope, rescopeEach_eq_map, List.map_map]
    exact congrArg _ (List.map_congr_left ih)
  | routed g t ih | recovered _ _ ih | metered _ _ ih | hooked _ _ ih =>
    simp only [rescope, ih, Guard.rescope, Function.comp_apply]
  | firstMatch rs ih =>
    simp only [rescope, rescopeRoutes_eq_map, rescope_firstMatchOf, List.map_map]
    refine congrArg firstMatchOf (List.map_congr_left fun r hr => ?_)
    simp only [Function.comp_apply, ih r hr, Guard.rescope]

/-- What fan-outs only pass on from their members is the same however they are flattened. -/
theorem gathered_fanout {α : Type} (gather : Sink σ → List α)
    (spread : ∀ ms, gather (.spread ms) = ms.flatMap gather) (ms : List (Sink σ)) :
    gather (fanout ms) = ms.flatMap gather := by
  have each : ∀ s : Sink σ, s.members.flatMap gather = gather s := by
    intro s
    cases s with
    | spread ms => exact (spread ms).symm
    | _ => exact List.flatMap_singleton gather _
  have same : (flatten ms).flatMap gather = ms.flatMap gather := by
    rw [flatten_eq_flatMap, List.flatMap_assoc]
    simp only [each]
  rw [← same]
  by_cases one : (flatten ms).length = 1
  · obtain ⟨s, hs⟩ := List.length_eq_one_iff.mp one
    rw [fanout_single hs, hs, List.flatMap_singleton]
  · rw [fanout_many one, spread]

theorem parts_fanout (ms : List (Sink σ)) : (fanout ms).parts = ms.flatMap parts :=
  gathered_fanout parts (fun ms => by rw [parts, partsEach_eq_flatMap]) ms

theorem parts_firstMatchOf (rs : List (Guard σ × Sink σ)) :
    (firstMatchOf rs).parts = rs.flatMap fun r => .guard r.1.skipping :: r.2.parts := by
  simp [firstMatchOf, parts, partsRoutes_eq_flatMap, List.flatMap_map]

/-- Whatever is read off the parts, and not off the marks of routes, changes as the parts do. -/
theorem pick_parts_rescope {α : Type} (f : Scope → Scope) (pick : Part σ → Option α)
    (change : α → α) (marked : ∀ g, pick (.guard g.skipping) = pick (.guard g))
    (moved : ∀ p, pick (p.rescope f) = (pick p).map change) (s : Sink σ) :
    (s.rescope f).parts.filterMap pick = (s.parts.filterMap pick).map change := by
  have each : ∀ ms : List (Sink σ),
      (∀ s ∈ ms, (s.rescope f).parts.filterMap pick = (s.parts.filterMap pick).map change) →
      (ms.flatMap fun s => (s.rescope f).parts).filterMap pick =
        ((ms.flatMap parts).filterMap pick).map change := by
    intro ms ih
    rw [List.filterMap_flatMap, List.filterMap_flatMap, List.map_flatMap]
    exact List.flatMap_congr ih
  have step : ∀ p ps qs, ps.filterMap pick = (qs.filterMap pick).map change →
      (p.rescope f :: ps).filterMap pick = ((p :: qs).filterMap pick).map change := by
    intro p ps qs h
    rw [List.filterMap_cons, List.filterMap_cons, moved p]
    cases pick p <;> simp [h]
  induction s using induction with
  | leaf l => exact step (.leaf l) [] [] rfl
  | spread ms ih =>
    rw [rescope, rescopeEach_eq_map, parts_fanout, List.flatMap_map, parts, partsEach_eq_flatMap]
    exact each ms ih
  | failover ms ih | pool ms ih =>
    rw [rescope, rescopeEach_eq_map, parts, parts, partsEach_eq_flatMap, partsEach_eq_flatMap,
      List.flatMap_map]
    exact each ms ih
  | routed g t ih => exact step (.guard g) _ _ ih
  | firstMatch rs ih =>
    rw [rescope, rescopeRoutes_eq_map, parts_firstMatchOf, List.flatMap_map, parts,
      partsRoutes_eq_flatMap, List.filterMap_flatMap, List.filterMap_flatMap, List.map_flatMap]
    refine List.flatMap_congr fun r hr => ?_
    rw [List.filterMap_cons, marked, ← List.filterMap_cons]
    exact step (.guard r.1) _ _ (ih r hr)
  | recovered recovery s ih => exact step (.recovery recovery) _ _ ih
  | metered m s ih => exact step (.meter m) _ _ ih
  | hooked h s ih => exact step (.hooks h) _ _ ih

def scopes (s : Sink σ) : List Scope := s.parts.filterMap Part.scope?

def hooksOf (s : Sink σ) : List Hooks := s.parts.filterMap Part.hooks?

theorem scopes_rescope (f : Scope → Scope) (s : Sink σ) :
    (s.rescope f).scopes = s.scopes.map f :=
  pick_parts_rescope f Part.scope? f (fun _ => rfl) (fun p => by cases p <;> rfl) s

theorem hooksOf_rescope (f : Scope → Scope) (s : Sink σ) : (s.rescope f).hooksOf = s.hooksOf := by
  have h := pick_parts_rescope f Part.hooks? id (fun _ => rfl) (fun p => by cases p <;> rfl) s
  rwa [List.map_id] at h

theorem hooks_mem_hooksOf {h : Hooks} {s : Sink σ} : h ∈ s.hooksOf ↔ .hooks h ∈ s.parts := by
  simp only [hooksOf, List.mem_filterMap]
  constructor
  · rintro ⟨p, hp, found⟩
    cases p <;> simp only [Part.hooks?, reduceCtorEq, Option.some.injEq] at found
    exact found ▸ hp
  · exact fun hp => ⟨_, hp, rfl⟩

theorem mem_parts_each {p : Part σ} {s : Sink σ} {ms : List (Sink σ)} (hs : s ∈ ms)
    (hp : p ∈ s.parts) : p ∈ partsEach ms := by
  rw [partsEach_eq_flatMap]
  exact List.mem_flatMap.mpr ⟨s, hs, hp⟩

theorem mem_parts_routes {p : Part σ} {r : Guard σ × Sink σ} {rs : List (Guard σ × Sink σ)}
    (hr : r ∈ rs) (hp : p ∈ r.2.parts) : p ∈ partsRoutes rs := by
  rw [partsRoutes_eq_flatMap]
  exact List.mem_flatMap.mpr ⟨r, hr, List.mem_cons_of_mem _ hp⟩

theorem guard_mem_parts_routes {r : Guard σ × Sink σ} {rs : List (Guard σ × Sink σ)}
    (hr : r ∈ rs) : .guard r.1 ∈ partsRoutes rs := by
  rw [partsRoutes_eq_flatMap]
  exact List.mem_flatMap.mpr ⟨r, hr, List.mem_cons_self⟩

theorem withAttrs_eq_rescope (attrs : List Attr) (s : Sink σ)
    (quiet : ∀ h, .hooks h ∈ s.parts → h.onAttrs = none) :
    s.withAttrs attrs = s.rescope (·.withAttrs attrs) := by
  induction s using induction with
  | leaf l => rfl
  | spread ms ih | failover ms ih | pool ms ih =>
    rw [withAttrs, rescope, withAttrsEach_eq_map, rescopeEach_eq_map]
    refine congrArg _ (List.map_congr_left fun s hs => ?_)
    exact ih s hs fun h hp => quiet h (mem_parts_each hs hp)
  | routed g t ih =>
    rw [withAttrs, rescope, ih fun h hp => quiet h (List.mem_cons_of_mem _ hp)]
    rfl
  | firstMatch rs ih =>
    rw [withAttrs, rescope, withAttrsRoutes_eq_map, rescopeRoutes_eq_map]
    refine congrArg _ (List.map_congr_left fun r hr => ?_)
    rw [ih r hr fun h hp => quiet h (mem_parts_routes hr hp)]
    rfl
  | recovered recovery s ih | metered m s ih =>
    rw [withAttrs, rescope, ih fun h hp => quiet h (List.mem_cons_of_mem _ hp)]
  | hooked h s ih =>
    rw [withAttrs, rescope, quiet h List.mem_cons_self, Option.getD_none, id_eq,
      ih fun k hk => quiet k (List.mem_cons_of_mem _ hk)]

theorem withGroup_eq_rescope {name : Key} (named : name ≠ "") (s : Sink σ)
    (quiet : ∀ h, .hooks h ∈ s.parts → h.onGroup = none) :
    s.withGroup name = s.rescope (·.withGroup name) := by
  have opens : (name == "") = false := beq_eq_false_iff_ne.mpr named
  induction s using induction with
  | leaf l => simp only [withGroup, opens, rescope]; rfl
  | spread ms ih | failover ms ih | pool ms ih =>
    simp only [withGroup, opens, Bool.false_eq_true, if_false, rescope, withGroupEach_eq_map,
      rescopeEach_eq_map]
    refine congrArg _ (List.map_congr_left fun s hs => ?_)
    exact ih s hs fun h hp => quiet h (mem_parts_each hs hp)
  | routed g t ih =>
    simp only [withGroup, opens, rescope]
    rw [ih fun h hp => quiet h (List.mem_cons_of_mem _ hp)]
    rfl
  | firstMatch rs ih =>
    simp only [withGroup, opens, Bool.false_eq_true, if_false, rescope, withGroupRoutes_eq_map,
      rescopeRoutes_eq_map]
    refine congrArg _ (List.map_congr_left fun r hr => ?_)
    rw [ih r hr fun h hp => quiet h (mem_parts_routes hr hp)]
    rfl
  | recovered recovery s ih | metered m s ih =>
    simp only [withGroup, opens, rescope]
    rw [ih fun h hp => quiet h (List.mem_cons_of_mem _ hp)]
    rfl
  | hooked h s ih =>
    simp only [withGroup, opens, rescope, quiet h List.mem_cons_self, Option.getD_none, id_eq]
    rw [ih fun k hk => quiet k (List.mem_cons_of_mem _ hk)]
    rfl

/-- No hook of a middleware sees what is bound or opened. -/
def DerivesPlainly (s : Sink σ) : Prop :=
  ∀ h, .hooks h ∈ s.parts → h.onAttrs = none ∧ h.onGroup = none

/-- A tree in the form that building and deriving leave it in. -/
def Settled (s : Sink σ) : Prop := s.rescope id = s

theorem settled_rescope (f : Scope → Scope) (s : Sink σ) : Settled (s.rescope f) := by
  rw [Settled, rescope_rescope, Function.id_comp]

theorem derivesPlainly_rescope {s : Sink σ} (plain : DerivesPlainly s) (f : Scope → Scope) :
    DerivesPlainly (s.rescope f) := by
  intro h hp
  rw [← hooks_mem_hooksOf, hooksOf_rescope, hooks_mem_hooksOf] at hp
  exact plain h hp

theorem derive_empty (s : Sink σ) : s.derive (.group "") = s := withGroup_empty s

theorem derive_eq_rescope {s : Sink σ} (settled : Settled s) (plain : DerivesPlainly s)
    (d : Derivation) : s.derive d = s.rescope (·.derive d) := by
  cases d using Derivation.by_name with
  | attrs as => exact withAttrs_eq_rescope as s fun h hp => (plain h hp).1
  | unnamed => exact (derive_empty s).trans settled.symm
  | named name some_name => exact withGroup_eq_rescope some_name s fun h hp => (plain h hp).2

theorem derive_all_eq_rescope (ds : List Derivation) {s : Sink σ} (settled : Settled s)
    (plain : DerivesPlainly s) :
    ds.foldl derive s = s.rescope fun scope => ds.foldl Scope.derive scope := by
  induction ds generalizing s with
  | nil => exact settled.symm
  | cons d ds ih =>
    rw [List.foldl_cons, derive_eq_rescope settled plain, ih (settled_rescope _ s)
      (derivesPlainly_rescope plain _), rescope_rescope]
    rfl

theorem no_fanout_derive {s : Sink σ} (apart : s.fanoutMembers? = none) (d : Derivation) :
    (s.derive d).fanoutMembers? = none := by
  cases d using Derivation.by_name with
  | attrs as => cases s <;> first | rfl | contradiction
  | unnamed => rwa [derive_empty]
  | named name some_name =>
    have opens : (name == "") = false := beq_eq_false_iff_ne.mpr some_name
    cases s with
    | spread ms => contradiction
    | _ => simp only [derive, withGroup, opens]; rfl

/-- Where no member is a fan-out, deriving keeps the members in their places. -/
theorem derive_fanout {ms : List (Sink σ)} (flat : ∀ s ∈ ms, s.fanoutMembers? = none)
    (d : Derivation) : (fanout ms).derive d = fanout (ms.map (·.derive d)) := by
  by_cases one : ms.length = 1
  · obtain ⟨s, rfl⟩ := List.length_eq_one_iff.mp one
    have apart := flat s List.mem_cons_self
    have single : ∀ t : Sink σ, t.fanoutMembers? = none → fanout [t] = t := fun t ht =>
      fanout_single (flatten_of_no_fanout (List.forall_mem_singleton.mpr ht))
    rw [List.map_singleton, single s apart, single _ (no_fanout_derive apart d)]
  · have spread : fanout ms = .spread ms := by
      have same := flatten_of_no_fanout flat
      rw [fanout_many (by rwa [same]), same]
    cases d using Derivation.by_name with
    | attrs as => simp only [spread, derive, withAttrs, withAttrsEach_eq_map]
    | unnamed => simp only [derive_empty, List.map_id']
    | named name some_name =>
      simp only [spread, derive, withGroup, beq_iff_eq, some_name, if_false, withGroupEach_eq_map]

theorem no_fanout_derived {s : Sink σ} (apart : s.fanoutMembers? = none) (ds : List Derivation) :
    (ds.foldl derive s).fanoutMembers? = none := by
  induction ds generalizing s with
  | nil => exact apart
  | cons d ds ih => exact ih (no_fanout_derive apart d)

theorem derived_fanout {ms : List (Sink σ)} (flat : ∀ s ∈ ms, s.fanoutMembers? = none)
    (ds : List Derivation) :
    ds.foldl derive (fanout ms) = fanout (ms.map fun s => ds.foldl derive s) := by
  induction ds generalizing ms with
  | nil => exact congrArg fanout (List.map_id' ms).symm
  | cons d ds ih =>
    have flat' : ∀ s ∈ ms.map (·.derive d), s.fanoutMembers? = none :=
      List.forall_mem_map.mpr fun s hs => no_fanout_derive (flat s hs) d
    rw [List.foldl_cons, derive_fanout flat, ih flat', List.map_map]
    rfl

/-- Trees that the constructors make out of parts of a kind. The routes of a router that looks for
the first match are marked as it takes them; `Built.router` has both kinds of router. -/
inductive Built (ok : Part σ → Prop) : Sink σ → Prop where
  | leaf {l : Leaf σ} : ok (.leaf l) → Built ok (.leaf l)
  | fanout {ms : List (Sink σ)} : (∀ s ∈ ms, Built ok s) → Built ok (Sink.fanout ms)
  | failover {ms : List (Sink σ)} : (∀ s ∈ ms, Built ok s) → Built ok (.failover ms)
  | pool {ms : List (Sink σ)} : (∀ s ∈ ms, Built ok s) → Built ok (.pool ms)
  | routed {g : Guard σ} {t : Sink σ} : ok (.guard g) → Built ok t → Built ok (.routed g t)
  | firstMatch {rs : List (Guard σ × Sink σ)} :
    (∀ r ∈ rs, ok (.guard r.1)) → (∀ r ∈ rs, Built ok r.2) → Built ok (firstMatchOf rs)
  | recovered {recovery : Recovery σ} {s : Sink σ} :
    ok (.recovery recovery) → Built ok s → Built ok (.recovered recovery s)
  | metered {m : MeterId} {s : Sink σ} : ok (.meter m) → Built ok s → Built ok (.metered m s)
  | hooked {h : Hooks} {s : Sink σ} : ok (.hooks h) → Built ok s → Built ok (.hooked h s)

theorem Built.router {ok : Part σ → Prop} {first : Bool} {rs : List (Guard σ × Sink σ)}
    (guards : ∀ r ∈ rs, ok (.guard r.1)) (targets : ∀ r ∈ rs, Built ok r.2) :
    Built ok (Sink.router first rs) := by
  cases first with
  | true => exact .firstMatch guards targets
  | false =>
    refine .fanout fun s hs => ?_
    obtain ⟨r, hr, rfl⟩ := List.mem_map.mp hs
    exact .routed (guards r hr) (targets r hr)

theorem Built.settled {ok : Part σ → Prop} {s : Sink σ} (built : Built ok s) : Settled s := by
  induction built with
  | leaf _ => rfl
  | fanout _ ih =>
    rw [Settled, rescope_fanout]
    exact congrArg Sink.fanout ((List.map_congr_left ih).trans (List.map_id' _))
  | failover _ ih | pool _ ih =>
    rw [Settled, rescope, rescopeEach_eq_map]
    exact congrArg _ ((List.map_congr_left ih).trans (List.map_id' _))
  | routed _ _ ih =>
    rw [Settled, rescope, ih]
    rfl
  | recovered _ _ ih | metered _ _ ih | hooked _ _ ih => rw [Settled, rescope, ih]
  | firstMatch _ _ ih =>
    rw [Settled, rescope_firstMatchOf]
    refine congrArg firstMatchOf ((List.map_congr_left fun r hr => ?_).trans (List.map_id' _))
    rw [ih r hr]
    rfl

theorem Built.rescope {ok : Part σ → Prop} {f : Scope → Scope}
    (moved : ∀ p, ok p → ok (p.rescope f)) {s : Sink σ} (built : Built ok s) :
    Built ok (s.rescope f) := by
  induction built with
  | leaf h => exact .leaf (moved _ h)
  | fanout _ ih =>
    rw [rescope_fanout]
    exact .fanout (List.forall_mem_map.mpr ih)
  | failover _ ih =>
    rw [Sink.rescope, rescopeEach_eq_map]
    exact .failover (List.forall_mem_map.mpr ih)
  | pool _ ih =>
    rw [Sink.rescope, rescopeEach_eq_map]
    exact .pool (List.forall_mem_map.mpr ih)
  | routed h _ ih => exact .routed (moved _ h) ih
  | firstMatch guards _ ih =>
    rw [rescope_firstMatchOf]
    refine .firstMatch (List.forall_mem_map.mpr fun r hr => ?_) (List.forall_mem_map.mpr ih)
    exact moved _ (guards r hr)
  | recovered h _ ih => exact .recovered (moved _ h) ih
  | metered h _ ih => exact .metered (moved _ h) ih
  | hooked h _ ih => exact .hooked (moved _ h) ih

theorem Built.part {ok : Part σ → Prop} (marked : ∀ g, ok (.guard g) → ok (.guard g.skipping))
    {s : Sink σ} (built : Built ok s) : ∀ p ∈ s.parts, ok p := by
  induction built with
  | leaf h => simpa [parts] using h
  | fanout _ ih =>
    rw [parts_fanout]
    exact fun p hp => (List.mem_flatMap.mp hp).elim fun s hs => ih s hs.1 p hs.2
  | failover _ ih | pool _ ih =>
    rw [parts, partsEach_eq_flatMap]
    exact fun p hp => (List.mem_flatMap.mp hp).elim fun s hs => ih s hs.1 p hs.2
  | routed h _ ih | recovered h _ ih | metered h _ ih | hooked h _ ih =>
    exact List.forall_mem_cons.mpr ⟨h, ih⟩
  | firstMatch guards _ ih =>
    rw [parts_firstMatchOf]
    intro p hp
    obtain ⟨r, hr, hp⟩ := List.mem_flatMap.mp hp
    rcases List.mem_cons.mp hp with rfl | hp
    · exact marked _ (guards r hr)
    · exact ih r hr p hp

end Sink
end LogTree
