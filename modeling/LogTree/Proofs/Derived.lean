import LogTree.Proofs.Tree

/-!
Deriving node by node. An empty group name leaves a tree as it is, so one equation serves both ways
to derive; only a fan-out, which is flattened anew, and a first-match node, which is marked anew, have
none. A middleware changes the derivation before it goes on.
-/
namespace LogTree
variable {σ : Type}

/-- What goes on below of a derivation that a middleware gets. -/
def Hooks.through (h : Hooks) : Derivation → Derivation
  | .attrs as => .attrs (h.onAttrs.getD id as)
  | .group name => .group (if name = "" then "" else h.onGroup.getD id name)

namespace Sink
variable (d : Derivation)

theorem derive_leaf (l : Leaf σ) : (leaf l).derive d = .leaf (l.rescope (·.derive d)) := by
  cases d using Derivation.by_name with
  | attrs as => rfl
  | unnamed => exact derive_empty _
  | named name h =>
    simp only [derive, withGroup, beq_iff_eq, h, if_false]
    rfl

theorem derive_failover (ms : List (Sink σ)) :
    (failover ms).derive d = .failover (ms.map (·.derive d)) := by
  cases d using Derivation.by_name with
  | attrs as => simp only [derive, withAttrs, withAttrsEach_eq_map]
  | unnamed => simp only [derive_empty, List.map_id']
  | named name h => simp only [derive, withGroup, beq_iff_eq, h, if_false, withGroupEach_eq_map]

theorem derive_pool (ms : List (Sink σ)) : (pool ms).derive d = .pool (ms.map (·.derive d)) := by
  cases d using Derivation.by_name with
  | attrs as => simp only [derive, withAttrs, withAttrsEach_eq_map]
  | unnamed => simp only [derive_empty, List.map_id']
  | named name h => simp only [derive, withGroup, beq_iff_eq, h, if_false, withGroupEach_eq_map]

theorem derive_routed (g : Guard σ) (t : Sink σ) :
    (routed g t).derive d = .routed (g.rescope (·.derive d)) (t.derive d) := by
  cases d using Derivation.by_name with
  | attrs as => rfl
  | unnamed =>
    simp only [derive_empty]
    rfl
  | named name h =>
    simp only [derive, withGroup, beq_iff_eq, h, if_false]
    rfl

theorem derive_metered (m : MeterId) (s : Sink σ) :
    (metered m s).derive d = .metered m (s.derive d) := by
  cases d using Derivation.by_name with
  | attrs as => rfl
  | unnamed => simp only [derive_empty]
  | named name h => simp only [derive, withGroup, beq_iff_eq, h, if_false]

theorem derive_recovered (x : Recovery σ) (s : Sink σ) :
    (recovered x s).derive d = .recovered x (s.derive d) := by
  cases d using Derivation.by_name with
  | attrs as => rfl
  | unnamed => simp only [derive_empty]
  | named name h => simp only [derive, withGroup, beq_iff_eq, h, if_false]

theorem derive_hooked (hooks : Hooks) (s : Sink σ) :
    (hooked hooks s).derive d = .hooked hooks (s.derive (hooks.through d)) := by
  cases d using Derivation.by_name with
  | attrs as => rfl
  | unnamed => simp only [Hooks.through, if_true, derive_empty]
  | named name h => simp only [Hooks.through, derive, withGroup, beq_iff_eq, h, if_false]

/-- Only the marks and scopes of the guards are not told. -/
theorem derive_firstMatch (rs : List (Guard σ × Sink σ)) :
    ∃ guard : Guard σ → Guard σ,
      (firstMatch rs).derive d = .firstMatch (rs.map fun r => (guard r.1, r.2.derive d)) := by
  cases d using Derivation.by_name with
  | attrs as =>
    refine ⟨fun g => (g.withAttrs as).skipping, ?_⟩
    simp only [derive, withAttrs, withAttrsRoutes_eq_map, firstMatchOf, List.map_map]
    rfl
  | unnamed => exact ⟨id, by simp [derive_empty]⟩
  | named name h =>
    refine ⟨fun g => (g.withGroup name).skipping, ?_⟩
    simp only [derive, withGroup, beq_iff_eq, h, if_false, withGroupRoutes_eq_map, firstMatchOf,
      List.map_map]
    rfl

/-- What fan-outs only pass on from their members, they pass on from the derived members. -/
theorem gathered_derive_spread {α : Type} (gather : Sink σ → List α)
    (spread : ∀ ms, gather (.spread ms) = ms.flatMap gather) (ms : List (Sink σ)) :
    gather ((Sink.spread ms).derive d) = (ms.map (·.derive d)).flatMap gather := by
  cases d using Derivation.by_name with
  | attrs as =>
    simp only [derive, withAttrs, withAttrsEach_eq_map]
    exact gathered_fanout gather spread _
  | unnamed =>
    simp only [derive_empty, List.map_id']
    exact spread ms
  | named name h =>
    simp only [derive, withGroup, beq_iff_eq, h, if_false, withGroupEach_eq_map]
    exact gathered_fanout gather spread _

theorem derived_leaf (ds : List Derivation) (l : Leaf σ) :
    ds.foldl derive (.leaf l) = .leaf (l.rescope fun scope => ds.foldl Scope.derive scope) := by
  induction ds generalizing l with
  | nil => rfl
  | cons d ds ih =>
    rw [List.foldl_cons, derive_leaf, ih]
    rfl

theorem derived_metered (ds : List Derivation) (m : MeterId) (s : Sink σ) :
    ds.foldl derive (.metered m s) = .metered m (ds.foldl derive s) :=
  List.foldl_hom (metered m) fun s d => derive_metered d m s

theorem derived_recovered (ds : List Derivation) (x : Recovery σ) (s : Sink σ) :
    ds.foldl derive (.recovered x s) = .recovered x (ds.foldl derive s) :=
  List.foldl_hom (recovered x) fun s d => derive_recovered d x s

end Sink
end LogTree
