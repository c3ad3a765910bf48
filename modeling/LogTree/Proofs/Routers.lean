import LogTree.Proofs.Tree

/-!
The nodes of a tree that look for the first route that matches, each known by its routes. Deriving
keeps them, with the scopes of their routes moved.
-/
namespace LogTree
variable {σ : Type}

namespace Sink

mutual

/-- The routes of every node that picks one, from left to right; a node comes before those below it. -/
@[simp] def routers : Sink σ → List (List (Guard σ × Sink σ))
  | .leaf _ => []
  | .spread ms => routersEach ms
  | .failover ms => routersEach ms
  | .pool ms => routersEach ms
  | .routed _ t => routers t
  | .firstMatch rs => rs :: routersTargets rs
  | .recovered _ s => routers s
  | .metered _ s => routers s
  | .hooked _ s => routers s

def routersEach : List (Sink σ) → List (List (Guard σ × Sink σ))
  | [] => []
  | s :: rest => routers s ++ routersEach rest

def routersTargets : List (Guard σ × Sink σ) → List (List (Guard σ × Sink σ))
  | [] => []
  | (_, s) :: rest => routers s ++ routersTargets rest

end

theorem routersEach_eq_flatMap (ms : List (Sink σ)) : routersEach ms = ms.flatMap routers := by
  induction ms with
  | nil => simp [routersEach]
  | cons s rest ih => simp [routersEach, ih]

theorem routersTargets_eq_flatMap (rs : List (Guard σ × Sink σ)) :
    routersTargets rs = rs.flatMap fun r => r.2.routers := by
  induction rs with
  | nil => simp [routersTargets]
  | cons r rest ih => simp [routersTargets, ih]

theorem mem_routers_each {ms : List (Sink σ)} {s : Sink σ} {rs : List (Guard σ × Sink σ)}
    (member : s ∈ ms) (routes : rs ∈ s.routers) : rs ∈ routersEach ms := by
  rw [routersEach_eq_flatMap]
  exact List.mem_flatMap.mpr ⟨s, member, routes⟩

theorem mem_routers_targets {rs : List (Guard σ × Sink σ)} {r : Guard σ × Sink σ}
    {rs' : List (Guard σ × Sink σ)} (route : r ∈ rs) (routes : rs' ∈ r.2.routers) :
    rs' ∈ routersTargets rs := by
  rw [routersTargets_eq_flatMap]
  exact List.mem_flatMap.mpr ⟨r, route, routes⟩

theorem routers_fanout (ms : List (Sink σ)) : (fanout ms).routers = ms.flatMap routers :=
  gathered_fanout routers (fun ms => by rw [routers, routersEach_eq_flatMap]) ms

theorem routers_router (first : Bool) (rs : List (Guard σ × Sink σ)) :
    (router first rs).routers =
      (if first then [rs.map fun r => (r.1.skipping, r.2)] else []) ++
        rs.flatMap fun r => r.2.routers := by
  cases first with
  | true =>
    simp only [router, if_true, firstMatchOf, routers, routersTargets_eq_flatMap, List.flatMap_map]
    rfl
  | false =>
    simp only [router, Bool.false_eq_true, if_false, routers_fanout, List.flatMap_map, routers]
    rfl

/-- Deriving moves the scope of each route, and the node marks it again. -/
def rescopeRoute (f : Scope → Scope) (r : Guard σ × Sink σ) : Guard σ × Sink σ :=
  ((r.1.rescope f).skipping, r.2.rescope f)

theorem routers_rescope (f : Scope → Scope) (s : Sink σ) :
    (s.rescope f).routers = s.routers.map fun rs => rs.map (rescopeRoute f) := by
  have each : ∀ ms : List (Sink σ),
      (∀ s ∈ ms, (s.rescope f).routers = s.routers.map fun rs => rs.map (rescopeRoute f)) →
      (ms.flatMap fun s => (s.rescope f).routers) =
        (ms.flatMap routers).map fun rs => rs.map (rescopeRoute f) := by
    intro ms ih
    rw [List.map_flatMap]
    exact List.flatMap_congr ih
  induction s using induction with
  | leaf l => rfl
  | spread ms ih =>
    rw [rescope, rescopeEach_eq_map, routers_fanout, List.flatMap_map, routers,
      routersEach_eq_flatMap]
    exact each ms ih
  | failover ms ih | pool ms ih =>
    rw [rescope, rescopeEach_eq_map, routers, routers, routersEach_eq_flatMap,
      routersEach_eq_flatMap, List.flatMap_map]
    exact each ms ih
  | firstMatch rs ih =>
    rw [rescope, rescopeRoutes_eq_map, firstMatchOf, routers, routers, routersTargets_eq_flatMap,
      routersTargets_eq_flatMap, List.map_cons, List.map_map, List.flatMap_map, List.map_flatMap]
    exact congrArg (_ :: ·) (List.flatMap_congr ih)
  | routed _ _ ih | recovered _ _ ih | metered _ _ ih | hooked _ _ ih => exact ih

end Sink
end LogTree
