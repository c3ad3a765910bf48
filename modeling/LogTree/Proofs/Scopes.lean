import LogTree.Proofs.Frame
import LogTree.Proofs.Search

/-!
Guards and leaves keep the same scope. Each of them follows the derivations on its own, so a guard
decides on what the leaves behind it will store. Main statement: `scopes_in_step`.
-/
namespace LogTree
variable {σ : Type}

/-- Nothing bound, nothing opened, and no hook anywhere. -/
def Part.Fresh : Part σ → Prop
  | .leaf l => l.scope = .empty
  | .guard g => g.scope = .empty
  | .hooks h => h = .none
  | .recovery _ => True
  | .meter _ => True

def Delivery.Of (scope : Scope) (r : Record) (d : Delivery) : Prop :=
  d.record = r ∧ d.scope = scope

namespace World

def Delivers (ok : Delivery → Prop) (w v : World σ) : Prop :=
  ∃ new, v.deliveries.toList = w.deliveries.toList ++ new ∧ ∀ d ∈ new, ok d

theorem delivers_of_eq {ok : Delivery → Prop} {w v : World σ} (h : v.deliveries = w.deliveries) :
    Delivers ok w v :=
  ⟨[], by simp [h], by simp⟩

theorem delivers_trans {ok : Delivery → Prop} {u v w : World σ} (first : Delivers ok u v)
    (second : Delivers ok v w) : Delivers ok u w := by
  obtain ⟨ds, hds, okds⟩ := first
  obtain ⟨es, hes, okes⟩ := second
  refine ⟨ds ++ es, by rw [hes, hds, List.append_assoc], ?_⟩
  exact List.forall_mem_append.mpr ⟨okds, okes⟩

theorem frame_delivers (ok : Delivery → Prop) : Frame (Delivers (σ := σ) ok) where
  refl _ := delivers_of_eq rfl
  trans := delivers_trans
  note _ _ := delivers_of_eq rfl
  tick _ _ _ := delivers_of_eq rfl
  draw _ _ := delivers_of_eq rfl
  state _ _ := delivers_of_eq rfl

theorem delivers_deliver {ok : Delivery → Prop} {d : Delivery} (h : ok d) (w : World σ) :
    Delivers ok w (w.deliver d) :=
  ⟨[d], by simp [deliver], by simpa using h⟩

theorem delivers_mono {ok ok' : Delivery → Prop} (weaker : ∀ d, ok d → ok' d) {w v : World σ}
    (h : Delivers ok w v) : Delivers ok' w v := by
  obtain ⟨new, grown, all⟩ := h
  exact ⟨new, grown, fun d hd => weaker d (all d hd)⟩

/-- Deliveries that go elsewhere leave a buffer as it is. -/
theorem buffer_of_others {b : BufferId} {w v : World σ}
    (h : Delivers (fun d => d.buffer ≠ some b) w v) : v.buffer b = w.buffer b := by
  obtain ⟨new, grown, others⟩ := h
  have stored : (new.filterMap fun d =>
      if d.buffer = some b then some (d.scope.view d.record) else none) = [] :=
    List.filterMap_eq_nil_iff.mpr fun d hd => if_neg (others d hd)
  rw [buffer, buffer, grown, List.filterMap_append, stored, List.append_nil]

/-- Deliveries of one record in one scope add copies of one view to a buffer. -/
theorem buffer_of_delivers {scope : Scope} {r : Record} {w v : World σ}
    (h : Delivers (Delivery.Of scope r) w v) (b : BufferId) :
    ∃ n, v.buffer b = w.buffer b ++ List.replicate n (scope.view r) := by
  obtain ⟨new, grown, same⟩ := h
  let stored := new.filterMap fun d =>
    if d.buffer = some b then some (d.scope.view d.record) else none
  have copies : ∀ x ∈ stored, x = scope.view r := by
    intro x hx
    obtain ⟨d, hd, hx⟩ := List.mem_filterMap.mp hx
    split at hx
    · rw [← Option.some.inj hx, (same d hd).1, (same d hd).2]
    · contradiction
  refine ⟨stored.length, ?_⟩
  rw [← List.eq_replicate_of_mem copies, buffer, buffer, grown, List.filterMap_append]

end World

theorem Leaf.within_delivers (l : Leaf σ) (c : Context) (r : Record) :
    l.behaviour.Within (World.Delivers (Delivery.Of l.scope r)) c r := by
  intro w
  have frame : Frame (World.Delivers (σ := σ) (Delivery.Of l.scope r)) := World.frame_delivers _
  have of : Delivery.Of l.scope r ⟨l.name, l.scope, r, l.buffer?⟩ := ⟨rfl, rfl⟩
  have call := World.delivers_deliver of w
  simp only [Leaf.behaviour, Leaf.react]
  split
  · exact call
  · exact frame.trans call (frame.note _ _)
  · exact frame.trans call (frame.state _ _)

/-- The test asked about `v`, whatever record it is given. -/
def Predicate.pinned (v : Record) (p : Predicate σ) : Predicate σ :=
  .custom fun c _ s => p.holds c v s

def Guard.pinned (v : Record) (g : Guard σ) : Guard σ :=
  { g with predicates := g.predicates.map (Predicate.pinned v) }

theorem Predicate.allHold_pinned (c : Context) (v : Record) (ps : List (Predicate σ)) (s : σ) :
    allHold c v (ps.map (Predicate.pinned v)) s = allHold c v ps s := by
  induction ps generalizing s with
  | nil => rfl
  | cons p ps ih => simp only [List.map_cons, allHold, ih]; rfl

theorem Guard.isMatch_pinned {v : Record} (g : Guard σ) (c : Context) {r : Record}
    (sees : g.scope.view r = v) (w : World σ) : (g.pinned v).isMatch c r w = g.isMatch c r w := by
  subst sees
  simp only [Guard.isMatch, Guard.pinned]
  congr 1
  funext s
  exact Predicate.allHold_pinned c _ g.predicates s

namespace Behaviour

section
variable {c : Context} {r : Record} {α : Type} {xs : List α} {f g : α → Behaviour σ}

theorem same_fanout (same : ∀ x ∈ xs, Same c r (f x) (g x)) :
    Same c r (fanout (xs.map f)) (fanout (xs.map g)) where
  name := rfl
  enabled := anyEnabled_congr fun x hx => (same x hx).enabled
  handle := fanout_alike fun x hx => (same x hx).alike

theorem same_failover (same : ∀ x ∈ xs, Same c r (f x) (g x)) :
    Same c r (failover (xs.map f)) (failover (xs.map g)) where
  name := rfl
  enabled := anyEnabled_congr fun x hx => (same x hx).enabled
  handle := failover_alike fun x hx => (same x hx).alike

theorem same_pool (same : ∀ x ∈ xs, Same c r (f x) (g x)) :
    Same c r (pool (xs.map f)) (pool (xs.map g)) where
  name := rfl
  enabled := anyEnabled_congr fun x hx => (same x hx).enabled
  handle := pool_alike fun x hx => (same x hx).alike

/-- The two guards are marked and match alike on one record. -/
def SameMatch (c : Context) (r : Record) (g h : Guard σ) : Prop :=
  g.matched = h.matched ∧ ∀ w, g.isMatch c r w = h.isMatch c r w

theorem same_routed {g h : Guard σ} {a b : Behaviour σ} (guards : SameMatch c r g h)
    (same : Same c r a b) : Same c r (routed g a) (routed h b) where
  name := same.name
  enabled := same.enabled
  handle w := by simp only [routed, guards.1, guards.2, same.handle, same.name]

theorem same_firstMatch {f g : α → Route σ} (guards : ∀ x ∈ xs, SameMatch c r (f x).1 (g x).1)
    (targets : ∀ x ∈ xs, Same c r (f x).2 (g x).2) :
    Same c r (firstMatch (xs.map f)) (firstMatch (xs.map g)) where
  name := rfl
  enabled := by
    simp only [firstMatch, List.map_map]
    exact anyEnabled_congr fun x hx => (targets x hx).enabled
  handle := firstMatch_alike (fun x hx => (guards x hx).2) fun x hx =>
    ⟨(targets x hx).alike, (same_routed (guards x hx) (targets x hx)).alike⟩

end
end Behaviour

namespace Sink

mutual

def mapGuards (f : Guard σ → Guard σ) : Sink σ → Sink σ
  | .leaf l => .leaf l
  | .spread ms => .spread (mapGuardsEach f ms)
  | .failover ms => .failover (mapGuardsEach f ms)
  | .pool ms => .pool (mapGuardsEach f ms)
  | .routed g t => .routed (f g) (mapGuards f t)
  | .firstMatch rs => .firstMatch (mapGuardsRoutes f rs)
  | .recovered recovery s => .recovered recovery (mapGuards f s)
  | .metered m s => .metered m (mapGuards f s)
  | .hooked h s => .hooked h (mapGuards f s)

def mapGuardsEach (f : Guard σ → Guard σ) : List (Sink σ) → List (Sink σ)
  | [] => []
  | s :: rest => mapGuards f s :: mapGuardsEach f rest

def mapGuardsRoutes (f : Guard σ → Guard σ) : List (Guard σ × Sink σ) → List (Guard σ × Sink σ)
  | [] => []
  | (g, s) :: rest => (f g, mapGuards f s) :: mapGuardsRoutes f rest

end

theorem mapGuardsEach_eq_map (f : Guard σ → Guard σ) (ms : List (Sink σ)) :
    mapGuardsEach f ms = ms.map (mapGuards f) := by
  induction ms with
  | nil => simp [mapGuardsEach]
  | cons s rest ih => simp [mapGuardsEach, ih]

theorem mapGuardsRoutes_eq_map (f : Guard σ → Guard σ) (rs : List (Guard σ × Sink σ)) :
    mapGuardsRoutes f rs = rs.map fun r => (f r.1, r.2.mapGuards f) := by
  induction rs with
  | nil => simp [mapGuardsRoutes]
  | cons r rest ih => simp [mapGuardsRoutes, ih]

end Sink

/-- What a change of guards must respect; hooks could show the difference. -/
def Part.MatchesAs (f : Guard σ → Guard σ) (c : Context) (r : Record) : Part σ → Prop
  | .guard g => Behaviour.SameMatch c r (f g) g
  | .hooks h => h.onEnabled = none ∧ h.onHandle = none
  | _ => True

namespace Sink

theorem same_mapGuards {f : Guard σ → Guard σ} {c : Context} {r : Record} (s : Sink σ)
    (parts : ∀ p ∈ s.parts, p.MatchesAs f c r) :
    Behaviour.Same c r (s.mapGuards f).behaviour s.behaviour := by
  induction s using induction with
  | leaf l => exact ⟨rfl, rfl, fun _ => rfl⟩
  | spread ms ih =>
    rw [mapGuards, mapGuardsEach_eq_map, Sink.behaviour, Sink.behaviour, behaviours_eq_map,
      behaviours_eq_map, List.map_map]
    exact Behaviour.same_fanout fun s hs => ih s hs fun p hp => parts p (mem_parts_each hs hp)
  | failover ms ih =>
    rw [mapGuards, mapGuardsEach_eq_map, Sink.behaviour, Sink.behaviour, behaviours_eq_map,
      behaviours_eq_map, List.map_map]
    exact Behaviour.same_failover fun s hs => ih s hs fun p hp => parts p (mem_parts_each hs hp)
  | pool ms ih =>
    rw [mapGuards, mapGuardsEach_eq_map, Sink.behaviour, Sink.behaviour, behaviours_eq_map,
      behaviours_eq_map, List.map_map]
    exact Behaviour.same_pool fun s hs => ih s hs fun p hp => parts p (mem_parts_each hs hp)
  | routed g t ih =>
    obtain ⟨guards, inner⟩ := List.forall_mem_cons.mp parts
    exact Behaviour.same_routed guards (ih inner)
  | firstMatch rs ih =>
    rw [mapGuards, mapGuardsRoutes_eq_map, Sink.behaviour, Sink.behaviour,
      routeBehaviours_eq_map, routeBehaviours_eq_map, List.map_map]
    refine Behaviour.same_firstMatch (fun x hx => parts (.guard x.1) ?_) fun x hx =>
      ih x hx fun p hp => parts p (mem_parts_routes hx hp)
    rw [Sink.parts, partsRoutes_eq_flatMap]
    exact List.mem_flatMap.mpr ⟨x, hx, List.mem_cons_self⟩
  | recovered recovery s ih =>
    have next := (ih (List.forall_mem_cons.mp parts).2)
    refine ⟨next.name, next.enabled, fun w => ?_⟩
    simp only [mapGuards, Sink.behaviour, Behaviour.recovered, next.alike.guarded]
  | metered m s ih =>
    have next := (ih (List.forall_mem_cons.mp parts).2)
    refine ⟨next.name, next.enabled, fun w => ?_⟩
    simp only [mapGuards, Sink.behaviour, Behaviour.metered, next.enabled, next.alike.guarded]
  | hooked h s ih =>
    obtain ⟨⟨noEnabled, noHandle⟩, inner⟩ := List.forall_mem_cons.mp parts
    have next := ih inner
    refine ⟨next.name, ?_, fun w => ?_⟩
    · simp only [mapGuards, Sink.behaviour, Behaviour.hooked, noEnabled, next.enabled]
    · simp only [mapGuards, Sink.behaviour, Behaviour.hooked, noHandle, next.handle]

theorem mem_scopes {s : Sink σ} {p : Part σ} {x : Scope} (hp : p ∈ s.parts)
    (hx : p.scope? = some x) : x ∈ s.scopes :=
  List.mem_filterMap.mpr ⟨p, hp, hx⟩

theorem Built.scopes_fresh {s : Sink σ} (built : Built Part.Fresh s) :
    ∀ x ∈ s.scopes, x = .empty := by
  intro x hx
  obtain ⟨p, hp, hx⟩ := List.mem_filterMap.mp hx
  have fresh := built.part (fun _ h => h) p hp
  cases p with
  | leaf l => exact (Option.some.inj hx).symm.trans fresh
  | guard g => exact (Option.some.inj hx).symm.trans fresh
  | recovery _ | meter _ | hooks _ => contradiction

theorem Built.hooks_fresh {s : Sink σ} (built : Built Part.Fresh s) {h : Hooks}
    (hp : .hooks h ∈ s.parts) : h = .none :=
  built.part (fun _ h => h) (.hooks h) hp

/-- Deriving a tree moves the scopes of all its parts in step. -/
theorem Built.scopes_derived {s : Sink σ} (built : Built Part.Fresh s) (ds : List Derivation) :
    ∀ x ∈ (ds.foldl derive s).scopes, x = ds.foldl Scope.derive .empty := by
  have plain : DerivesPlainly s := fun h hp => built.hooks_fresh hp ▸ ⟨rfl, rfl⟩
  intro x hx
  rw [derive_all_eq_rescope ds built.settled plain, scopes_rescope] at hx
  obtain ⟨y, hy, rfl⟩ := List.mem_map.mp hx
  rw [built.scopes_fresh y hy]

theorem Built.hooks_derived {s : Sink σ} (built : Built Part.Fresh s) (ds : List Derivation)
    {h : Hooks} (hp : .hooks h ∈ (ds.foldl derive s).parts) : h = .none := by
  have plain : DerivesPlainly s := fun h hp => built.hooks_fresh hp ▸ ⟨rfl, rfl⟩
  rw [derive_all_eq_rescope ds built.settled plain, ← hooks_mem_hooksOf, hooksOf_rescope,
    hooks_mem_hooksOf] at hp
  exact built.hooks_fresh hp

/-- After any derivations all guards and leaves of a tree that was built from fresh parts have one
scope. So the predicates are asked about the very attributes that the leaves store, see or print: a
run is the same with every predicate asked about that view, and a log leaf prints the visits of it
that are no groups. The leaves get the record as it came. -/
theorem scopes_in_step {s : Sink σ} (built : Built Part.Fresh s) (ds : List Derivation) :
    let t := ds.foldl derive s
    let scope := ds.foldl Scope.derive .empty
    (∀ g, .guard g ∈ t.parts → g.scope = scope) ∧
    (∀ l, .leaf l ∈ t.parts → l.scope = scope) ∧
    ∀ r : Record,
      let view : Record := { r with attrs := scope.attrs ++ r.attrs.map (nestIn scope.groups) }
      let text := " ".intercalate (((visits view.attrs).filter fun v => !v.value.isGroup).map
        fun v => v.path ++ "=" ++ v.value.text)
      (∀ l, .leaf l ∈ t.parts → l.scope.merged r = view.attrs ∧ l.renderAttrs r = text ∧
        ∀ least, l.kind = .log least → ∀ (c : Context) (w : World σ),
          (l.behaviour.handle c r w).2.events =
            w.events.push (.logged r.level l.name text r.message)) ∧
      ∀ (c : Context) (w : World σ),
        (t.mapGuards (Guard.pinned view)).handle c r w = t.handle c r w ∧
        World.Delivers (Delivery.Of scope r) w (t.handle c r w).2 ∧
        ∀ b, ∃ n, (t.handle c r w).2.buffer b = w.buffer b ++ List.replicate n view := by
  intro t scope
  have guards : ∀ g, .guard g ∈ t.parts → g.scope = scope :=
    fun g hp => built.scopes_derived ds _ (mem_scopes hp rfl)
  have leaves : ∀ l, .leaf l ∈ t.parts → l.scope = scope :=
    fun l hp => built.scopes_derived ds _ (mem_scopes hp rfl)
  refine ⟨guards, leaves, fun r => ?_⟩
  intro view text
  refine ⟨fun l hp => ?_, fun c w => ?_⟩
  · have merged : l.scope.merged r = view.attrs := by rw [leaves l hp]; rfl
    have rendered : l.renderAttrs r = text := by rw [Leaf.renderAttrs, merged]; rfl
    refine ⟨merged, rendered, fun least kind c w => ?_⟩
    simp only [Leaf.behaviour, Leaf.react, kind, rendered]
    rfl
  · have pinned : ∀ p ∈ t.parts, p.MatchesAs (Guard.pinned view) c r := by
      intro p hp
      cases p with
      | guard g => exact ⟨rfl, g.isMatch_pinned c (by rw [guards g hp]; rfl)⟩
      | hooks h => exact built.hooks_derived ds hp ▸ ⟨rfl, rfl⟩
      | leaf _ | recovery _ | meter _ => trivial
    have keeps : ∀ p ∈ t.parts, p.Keeps (World.Delivers (Delivery.Of scope r)) c r False := by
      intro p hp
      cases p with
      | leaf l => exact fun _ => leaves l hp ▸ l.within_delivers c r
      | hooks h => exact built.hooks_derived ds hp ▸ ⟨rfl, rfl⟩
      | guard _ | recovery _ | meter _ => trivial
    have delivered := handle_within (World.frame_delivers _) False t keeps False.elim w
    exact ⟨(same_mapGuards t pinned).handle w, delivered, World.buffer_of_delivers delivered⟩

theorem scopes_in_step_router :
    let console : Leaf Unit := ⟨"console", .empty, .log .info⟩
    let route : Guard Unit × Sink Unit :=
      (.ofPredicates [.attrValues [("user.id", .string "u1"), ("user.how", .string "ssh")]],
        .recovered .logging (.fanout [.leaf ⟨"db", .empty, .memory .info 0⟩, .leaf console]))
    let ds : List Derivation := [.group "user", .attrs [.mk "id" (.string "u1")], .group ""]
    let scope : Scope := ⟨["user"], [.group "user" [.mk "id" (.string "u1")]]⟩
    let t := ds.foldl derive (Sink.router true [route])
    let r : Record := ⟨⟨0, 0⟩, .info, "login", [.mk "how" (.string "ssh")]⟩
    let v := (t.handle .background r (.start () fun _ => 0)).2
    Built Part.Fresh (Sink.router true [route]) ∧
    (∀ g, .guard g ∈ t.parts → g.scope = scope) ∧
    (.leaf { console with scope := scope } ∈ t.parts ∧
      ({ console with scope := scope } : Leaf Unit).renderAttrs r = "user.id=u1 user.how=ssh") ∧
    v.events = #[.logged .info "console" "user.id=u1 user.how=ssh" "login"] ∧
    v.buffer 0 = [⟨⟨0, 0⟩, .info, "login",
      [.group "user" [.mk "id" (.string "u1")], .group "user" [.mk "how" (.string "ssh")]]⟩] := by
  intro console route ds scope t r v
  have target : Built Part.Fresh route.2 := by
    refine .recovered trivial (.fanout fun s hs => ?_)
    rcases List.mem_pair.mp hs with rfl | rfl
    · exact .leaf rfl
    · exact .leaf rfl
  have built : Built Part.Fresh (Sink.router true [route]) :=
    .router (List.forall_mem_singleton.mpr rfl) (List.forall_mem_singleton.mpr target)
  obtain ⟨guards, _, views⟩ := scopes_in_step built ds
  have there : .leaf { console with scope := scope } ∈ t.parts :=
    .tail _ (.tail _ (.tail _ (.head _)))
  have seen : visits (scope.merged r) = [⟨"user", .group [.mk "id" (.string "u1")]⟩,
      ⟨"user.id", .string "u1"⟩, ⟨"user", .group [.mk "how" (.string "ssh")]⟩,
      ⟨"user.how", .string "ssh"⟩] := by
    simp [scope, r, visits, visitsUnder, joinPath, Scope.merged, nestIn, Attr.group]
  have text : ({ console with scope := scope } : Leaf Unit).renderAttrs r =
      "user.id=u1 user.how=ssh" := by
    rw [((views r).1 _ there).2.1]
    show " ".intercalate (((visits (scope.merged r)).filter _).map _) = _
    rw [seen]
    decide +kernel
  let g : Guard Unit := { route.1 with scope := scope, matched := true }
  have found : Search.allFound (fun x v => x == v)
      [("user.id", Value.string "u1"), ("user.how", .string "ssh")] (scope.merged r) = true := by
    rw [Search.allFound_eq, seen]
    rfl
  have hit : ∀ w : World Unit, g.isMatch .background r w = (.ok true, w) := by
    intro w
    simp only [g, route, Guard.isMatch, Guard.ofPredicates, World.runState, Predicate.allHold,
      Predicate.holds, Scope.attrs_view, found]
  have shape : t = .firstMatch [(g, .recovered .logging (.spread
      [.leaf ⟨"db", scope, .memory .info 0⟩, .leaf { console with scope := scope }]))] := by rfl
  have ran : v = (((World.start () fun _ => 0).deliver ⟨"db", scope, r, some 0⟩).deliver
      ⟨"console", scope, r, none⟩).note (.logged .info "console" "user.id=u1 user.how=ssh" "login") := by
    rw [← text]
    simp only [v, shape, handle, behaviour, routeBehaviours, Behaviour.firstMatch,
      Behaviour.firstMatching, hit]
    rfl
  refine ⟨built, guards, ⟨there, text⟩, ?_, ?_⟩
  · rw [ran]
    rfl
  · rw [ran]
    rfl

end Sink
end LogTree
