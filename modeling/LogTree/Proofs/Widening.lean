import LogTree.Proofs.Bindings
import LogTree.Proofs.Content
import LogTree.Proofs.Derived

/-!
Binding more only widens matching. One list more on the way changes which groups later steps find
and extend, but every value and every group that was there stays, so a test that held still holds. It
is otherwise for tests that a caller writes: those may look for what is missing. Main statement:
`binding_widens`.
-/
namespace LogTree
open Config
variable {σ : Type}

theorem included_appendUnder (groups : List Key) (actual new : List Attr) :
    Included actual (appendUnder groups actual new) where
  leaves := by
    obtain ⟨pre, post, whole, appended⟩ := leafVisits_appendUnder groups actual new
    rw [whole, appended]
    intro v hv
    simp only [List.mem_append] at hv ⊢
    exact hv.imp_left .inl
  groups p hp := (mem_groupsUnder_appendUnder "" groups actual new p).mpr (.inl hp)

theorem Included.appendUnder {as bs : List Attr} (more : Included as bs) (groups : List Key)
    (new : List Attr) : Included (appendUnder groups as new) (appendUnder groups bs new) where
  leaves := by
    obtain ⟨pre, post, whole, appended⟩ := leafVisits_appendUnder groups as new
    obtain ⟨pre', post', whole', appended'⟩ := leafVisits_appendUnder groups bs new
    have kept := more.leaves
    rw [whole, whole'] at kept
    rw [appended, appended']
    intro v hv
    by_cases block : v ∈ leavesInside groups new
    · simp [block]
    · have around : v ∈ pre ++ post := by simpa [block] using hv
      simpa [block] using kept around
  groups p hp := by
    have here := (mem_groupsUnder_appendUnder "" groups as new p).mp hp
    refine (mem_groupsUnder_appendUnder "" groups bs new p).mpr ?_
    exact here.imp_left fun h => more.groups h

theorem Included.append_right {as bs : List Attr} (more : Included as bs) (cs : List Attr) :
    Included (as ++ cs) (bs ++ cs) := by
  constructor
  · intro v hv
    change v ∈ leavesUnder "" (as ++ cs) at hv
    change v ∈ leavesUnder "" (bs ++ cs)
    rw [leavesUnder_append, List.mem_append] at hv ⊢
    exact hv.imp_left fun h => more.leaves h
  · intro p hp
    rw [groupPaths, groupsUnder_append, List.mem_append] at hp ⊢
    exact hp.imp_left fun h => more.groups h

namespace Scope

/-- The same groups are open, and more is bound. -/
structure Widens (s t : Scope) : Prop where
  groups : s.groups = t.groups
  attrs : Included s.attrs t.attrs

theorem widens_withAttrs (s : Scope) (extra : List Attr) : Widens s (s.withAttrs extra) :=
  ⟨rfl, included_appendUnder s.groups s.attrs extra⟩

theorem Widens.derive {s t : Scope} (wider : Widens s t) (d : Derivation) :
    Widens (s.derive d) (t.derive d) := by
  cases d with
  | attrs as =>
    refine ⟨wider.groups, ?_⟩
    have more := wider.attrs.appendUnder s.groups as
    simpa only [Scope.derive, withAttrs, wider.groups] using more
  | group name =>
    refine ⟨?_, ?_⟩
    · rw [Scope.derive, Scope.derive, groups_withGroup, groups_withGroup, wider.groups]
    · rw [Scope.derive, Scope.derive, attrs_withGroup, attrs_withGroup]
      exact wider.attrs

theorem Widens.derived {s t : Scope} (wider : Widens s t) (ds : List Derivation) :
    Widens (ds.foldl Scope.derive s) (ds.foldl Scope.derive t) := by
  induction ds generalizing s t with
  | nil => exact wider
  | cons d ds ih => exact ih (wider.derive d)

theorem Widens.extends {s t : Scope} (wider : Widens s t) (r : Record) :
    Extends (s.view r) (t.view r) := by
  refine ⟨rfl, rfl, ?_⟩
  rw [attrs_view, attrs_view, merged, merged, wider.groups]
  exact wider.attrs.append_right _

end Scope

namespace Guard

def derive (g : Guard σ) : Derivation → Guard σ
  | .attrs as => g.withAttrs as
  | .group name => g.withGroup name

theorem derived_eq_rescope (ds : List Derivation) (g : Guard σ) :
    ds.foldl derive g = g.rescope fun scope => ds.foldl Scope.derive scope := by
  induction ds generalizing g with
  | nil => rfl
  | cons d ds ih =>
    rw [List.foldl_cons, ih]
    cases d <;> rfl

def passes (g : Guard σ) (c : Context) (r : Record) (w : World σ) : Bool :=
  match g.isMatch c r w with
  | (.ok true, _) => true
  | _ => false

theorem passes_of_decides {g : Guard σ} {c : Context} {r : Record} {hit : Bool}
    (decides : Behaviour.Decides c r g hit) (w : World σ) : g.passes c r w = hit := by
  unfold passes
  rw [decides w]
  cases hit <;> rfl

/-- The guard that a configuration puts before a target, once the steps are taken. -/
def configured (ps : List PredicateSpec) (ds : List Derivation) : Guard σ :=
  ds.foldl derive (.ofPredicates (ps.map PredicateSpec.predicate))

theorem decides_configured (ps : List PredicateSpec) (ds : List Derivation) (c : Context)
    (r : Record) :
    Behaviour.Decides c r (configured ps ds : Guard σ)
      (ps.all (PredicateSpec.holds ((ds.foldl Scope.derive .empty).view r))) := by
  rw [configured, derived_eq_rescope]
  exact decides_predicates rfl c r

theorem passes_widened (ps : List PredicateSpec) (before after : List Derivation)
    (extra : List Attr) {c : Context} {r : Record} {w : World σ}
    (match_before : (configured ps (before ++ after)).passes c r w = true) :
    (configured ps (before ++ .attrs extra :: after)).passes c r w = true := by
  rw [passes_of_decides (decides_configured ps _ c r), List.all_eq_true] at match_before ⊢
  have start := (before.foldl Scope.derive .empty).widens_withAttrs extra
  have wider : Scope.Widens ((before ++ after).foldl Scope.derive .empty)
      ((before ++ .attrs extra :: after).foldl Scope.derive .empty) := by
    rw [List.foldl_append, List.foldl_append]
    exact start.derived after
  exact fun p hp => p.holds_extends (wider.extends r) (match_before p hp)

end Guard

namespace Sink

/-- Deriving a router derives its routes, and nothing else shows. -/
theorem derive_router (first : Bool) (rs : List (Guard σ × Sink σ)) (d : Derivation) :
    (router first rs).derive d = router first (rs.map fun x => (x.1.derive d, x.2.derive d)) := by
  cases first with
  | true =>
    cases d using Derivation.by_name with
    | attrs as =>
      simp only [derive, router, if_true, firstMatchOf, withAttrs, withAttrsRoutes_eq_map,
        List.map_map]
      rfl
    | unnamed =>
      have same : ∀ g : Guard σ, g.derive (.group "") = g := fun _ => rfl
      simp only [same, derive_empty, List.map_id']
    | named name some_name =>
      simp only [derive, router, if_true, firstMatchOf, withGroup, beq_iff_eq, some_name, if_false,
        withGroupRoutes_eq_map, List.map_map]
      rfl
  | false =>
    have routes : ∀ s ∈ rs.map fun x => Sink.routed x.1 x.2, s.fanoutMembers? = none :=
      List.forall_mem_map.mpr fun _ _ => rfl
    have each : ∀ x : Guard σ × Sink σ,
        (Sink.routed x.1 x.2).derive d = .routed (x.1.derive d) (x.2.derive d) := by
      intro x
      rw [derive_routed]
      cases d <;> rfl
    simp only [router, Bool.false_eq_true, if_false, derive_fanout routes, List.map_map,
      Function.comp_def, each]

theorem foldl_derive_router (first : Bool) (rs : List (Guard σ × Sink σ)) (ds : List Derivation) :
    ds.foldl derive (router first rs) =
      router first (rs.map fun x => (ds.foldl Guard.derive x.1, ds.foldl derive x.2)) := by
  induction ds generalizing rs with
  | nil => simp
  | cons d ds ih =>
    rw [List.foldl_cons, derive_router, ih, List.map_map]
    rfl

def routesAfter (rs : List (List PredicateSpec × Sink σ)) (ds : List Derivation) :
    List (Guard σ × Sink σ) :=
  rs.map fun x => (.configured x.1 ds, ds.foldl derive x.2)

theorem derived_router (first : Bool) (rs : List (List PredicateSpec × Sink σ))
    (ds : List Derivation) :
    ds.foldl derive (router first (routesAfter rs [])) = router first (routesAfter rs ds) := by
  rw [foldl_derive_router, routesAfter, routesAfter, List.map_map]
  rfl

section
variable (c : Context) (r : Record) (w : World σ)

def matchesAt (routes : List (Guard σ × Sink σ)) (i : Nat) : Bool :=
  routes[i]?.any fun x => x.1.passes c r w

/-- The place of the first route that the record matches. -/
def winner? (routes : List (Guard σ × Sink σ)) : Option Nat :=
  routes.findIdx? fun x => x.1.passes c r w

/-- The search of a first-match node ends at that place. -/
theorem firstMatching_winner {routes : List (Guard σ × Sink σ)}
    (decides : ∀ x ∈ routes, ∃ hit, Behaviour.Decides c r x.1 hit) :
    Behaviour.firstMatching c r (routeBehaviours routes) w =
      (.ok ((winner? c r w routes).bind fun i => (routeBehaviours routes)[i]?), w) := by
  induction routes with
  | nil => rfl
  | cons x routes ih =>
    obtain ⟨⟨hit, here⟩, later⟩ := List.forall_mem_cons.mp decides
    rw [routeBehaviours, Behaviour.firstMatching, here w, winner?, List.findIdx?_cons,
      Guard.passes_of_decides here]
    cases hit with
    | true => rfl
    | false =>
      simp only [ih later, Bool.false_eq_true, if_false, Option.bind_map]
      rfl

end

/-- Whatever is bound more on the way, a route that matched still matches. So a router that was
derived with it has its routes match in every place where they matched without; and where only the
first of them counts, that one stands in the same place or in an earlier one. -/
theorem binding_widens (before after : List Derivation) (extra : List Attr) (c : Context)
    (r : Record) (w : World σ) :
    (∀ ps, (Guard.configured ps (before ++ after)).passes c r w = true →
      (Guard.configured ps (before ++ .attrs extra :: after)).isMatch c r w = (.ok true, w)) ∧
    ∀ rs : List (List PredicateSpec × Sink σ),
      (∀ ds, ds.foldl derive (router false (routesAfter rs [])) =
        router false (routesAfter rs ds)) ∧
      (∀ ds, ∃ marked,
        ds.foldl derive (router true (routesAfter rs [])) = .firstMatch marked ∧
        Behaviour.firstMatching c r (routeBehaviours marked) w =
          (.ok ((winner? c r w (routesAfter rs ds)).bind fun i => (routeBehaviours marked)[i]?),
            w)) ∧
      (∀ i, matchesAt c r w (routesAfter rs (before ++ after)) i = true →
        matchesAt c r w (routesAfter rs (before ++ .attrs extra :: after)) i = true) ∧
      ∀ i, winner? c r w (routesAfter rs (before ++ after)) = some i →
        ∃ j ≤ i, winner? c r w (routesAfter rs (before ++ .attrs extra :: after)) = some j := by
  have still : ∀ ps, (Guard.configured ps (before ++ after)).passes c r w = true →
      (Guard.configured ps (before ++ .attrs extra :: after)).passes c r w = true :=
    fun ps => Guard.passes_widened ps before after extra
  refine ⟨?_, fun rs => ⟨derived_router false rs, ?_, ?_, ?_⟩⟩
  · intro ps matched
    have decides := Guard.decides_configured ps (before ++ .attrs extra :: after) c r (σ := σ)
    have holds := still ps matched
    rw [Guard.passes_of_decides decides] at holds
    exact holds ▸ decides w
  · intro ds
    refine ⟨_, derived_router true rs ds, ?_⟩
    have decides : ∀ x ∈ (routesAfter rs ds).map fun x => (x.1.skipping, x.2),
        ∃ hit, Behaviour.Decides c r x.1 hit := by
      simp only [routesAfter, List.map_map, List.forall_mem_map]
      exact fun x _ => ⟨_, Guard.decides_configured x.1 ds c r⟩
    rw [firstMatching_winner c r w decides, winner?, List.findIdx?_map]
    rfl
  · intro i matched
    simp only [matchesAt, routesAfter, List.getElem?_map, Option.any_map] at matched ⊢
    cases here : rs[i]? with
    | none => simp [here] at matched
    | some x =>
      rw [here] at matched
      exact still x.1 matched
  · intro i first
    rw [winner?, routesAfter, List.findIdx?_map] at first ⊢
    exact List.findIdx?_eq_some_le_of_findIdx?_eq_some (fun x _ => still x.1) first

/-- The list is bound between two steps, and the second one finds the group that it opened. -/
theorem binding_widens_user :
    let leaf : Sink Unit := .leaf ⟨"db", .empty, .memory .info 0⟩
    let named : PredicateSpec := .attrValueIs (.ofList [("user.id", .string "u1")])
    let grouped : PredicateSpec := .attrKindIs (.ofList [("user", .group)])
    let rs : List (List PredicateSpec × Sink Unit) := [([named], leaf), ([grouped], leaf)]
    let before : List Derivation := [.group "user"]
    let after : List Derivation := [.attrs [.mk "ip" (.string "::1")], .group "req"]
    let extra : List Attr := [.mk "id" (.string "u1")]
    let r : Record := ⟨⟨0, 0⟩, .info, "m", [.mk "n" (.bool true)]⟩
    let c : Context := .background
    let w : World Unit := .start () fun _ => 0
    (Guard.configured [grouped] (before ++ after)).passes c r w = true ∧
      (Guard.configured [grouped] (before ++ .attrs extra :: after)).isMatch c r w = (.ok true, w) ∧
      matchesAt c r w (routesAfter rs (before ++ after)) 1 = true ∧
      matchesAt c r w (routesAfter rs (before ++ .attrs extra :: after)) 1 = true ∧
      winner? c r w (routesAfter rs (before ++ after)) = some 1 ∧
      ∃ j ≤ 1, winner? c r w (routesAfter rs (before ++ .attrs extra :: after)) = some j := by
  intro leaf named grouped rs before after extra r c w
  obtain ⟨still, routers⟩ := binding_widens before after extra c r w
  obtain ⟨_, _, places, earlier⟩ := routers rs
  let view := ((before ++ after).foldl Scope.derive .empty).view r
  have seen : visits view.attrs =
      [⟨"user", .group [.mk "ip" (.string "::1")]⟩, ⟨"user.ip", .string "::1"⟩,
        ⟨"user", .group [nestIn ["req"] (.mk "n" (.bool true))]⟩,
        ⟨"user.req", .group [.mk "n" (.bool true)]⟩, ⟨"user.req.n", .bool true⟩] := by
    simp [view, visits, visitsUnder, before, after, Scope.derive, Scope.view, Scope.merged,
      Scope.withAttrs, Scope.withGroup, Scope.empty, appendUnder, splitGroup, nestIn, joinPath,
      Attr.group, r, Record.addAttrs, Record.bare]
  have absent : named.holds view = false := by
    rw [PredicateSpec.holds, seen]
    decide +kernel
  have there : grouped.holds view = true := by
    rw [PredicateSpec.holds, seen]
    decide +kernel
  have passes : ∀ p : PredicateSpec,
      (Guard.configured [p] (before ++ after)).passes c r w = p.holds view := by
    intro p
    rw [Guard.passes_of_decides (Guard.decides_configured [p] _ c r)]
    exact Bool.and_true _
  have second : (Guard.configured [grouped] (before ++ after)).passes c r w = true :=
    (passes grouped).trans there
  have first : winner? c r w (routesAfter rs (before ++ after)) = some 1 := by
    rw [winner?, routesAfter, List.findIdx?_map]
    simp [rs, List.findIdx?_cons, passes, absent, there]
  exact ⟨second, still [grouped] second, second, places 1 second, first, earlier 1 first⟩

end Sink
end LogTree
