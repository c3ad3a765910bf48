import LogTree.Proofs.Bindings
import LogTree.Proofs.Content

/-!
A group without a name is its children. Where it stands, at the top or inside other groups, its
children may be written in its place: paths, kinds and plain values stay as they were, and only the
groups around it have another list. Main statement: `unnamed_group_is_its_children`.
-/
namespace LogTree
open Config
variable {σ : Type}

/-- The second list has the children of one group without a name in the place of that group. -/
inductive Inlined : List Attr → List Attr → Prop where
  | here (pre inner post : List Attr) :
    Inlined (pre ++ .group "" inner :: post) (pre ++ inner ++ post)
  | inside (pre : List Attr) (key : Key) (post : List Attr) {as bs : List Attr} :
    Inlined as bs → Inlined (pre ++ .group key as :: post) (pre ++ .group key bs :: post)

def Visit.emptied (v : Visit) : Visit := if v.value.isGroup then ⟨v.path, .group []⟩ else v

theorem Visit.emptied_plain {v : Visit} (plain : v.value.isGroup = false) : v.emptied = v := by
  rw [emptied, plain]
  rfl

@[simp] theorem Visit.path_emptied (v : Visit) : v.emptied.path = v.path := by
  rw [emptied]
  split <;> rfl

@[simp] theorem Visit.kind_emptied (v : Visit) : v.emptied.value.kind = v.value.kind := by
  obtain ⟨path, value⟩ := v
  cases value <;> rfl

@[simp] theorem Visit.isGroup_emptied (v : Visit) : v.emptied.value.isGroup = v.value.isGroup := by
  obtain ⟨path, value⟩ := v
  cases value <;> rfl

theorem leavesUnder_emptied (under : String) (attrs : List Attr) :
    leavesUnder under attrs =
      ((visitsUnder under attrs).map Visit.emptied).filter (!·.value.isGroup) := by
  have kept : (leavesUnder under attrs).map Visit.emptied = leavesUnder under attrs := by
    refine (List.map_congr_left fun v member => ?_).trans (List.map_id _)
    exact v.emptied_plain (by simpa using (List.mem_filter.mp member).2)
  rw [List.filter_map, ← kept, leavesUnder]
  simp only [Function.comp_def, Visit.isGroup_emptied]

/-- A visitor that does not look into groups may as well be shown empty ones. -/
theorem feed_emptied {visit : Visitor σ} (blind : ∀ v s, visit v.emptied s = visit v s)
    (vs : List Visit) : feed visit (vs.map Visit.emptied) = feed visit vs := by
  induction vs with
  | nil => rfl
  | cons v vs ih =>
    funext s
    rw [List.map_cons, feed, feed, blind, ih]

namespace Inlined
variable {as bs : List Attr}

theorem visits_emptied (inlined : Inlined as bs) (under : String) :
    (visitsUnder under as).map Visit.emptied = (visitsUnder under bs).map Visit.emptied := by
  induction inlined generalizing under with
  | here pre inner post =>
    have unseen : groupVisit under "" inner = [] := rfl
    rw [visitsUnder_append, visitsUnder_append, visitsUnder_append, visitsUnder_group, unseen,
      joinPath_empty, List.nil_append, List.append_assoc]
  | @inside pre key post as bs _ ih =>
    have around : (groupVisit under key as).map Visit.emptied =
        (groupVisit under key bs).map Visit.emptied := by
      rw [groupVisit, groupVisit]
      split <;> rfl
    simp only [visitsUnder_append, visitsUnder_group, List.map_append, around, ih]

theorem leaves (inlined : Inlined as bs) (under : String) :
    leavesUnder under as = leavesUnder under bs := by
  rw [leavesUnder_emptied, leavesUnder_emptied, inlined.visits_emptied]

theorem kinds (inlined : Inlined as bs) :
    (visits as).map (fun v => (v.path, v.value.kind)) =
      (visits bs).map fun v => (v.path, v.value.kind) := by
  have of_emptied : ∀ vs : List Visit, vs.map (fun v => (v.path, v.value.kind)) =
      (vs.map Visit.emptied).map fun v => (v.path, v.value.kind) := by
    intro vs
    rw [List.map_map]
    exact List.map_congr_left fun v _ => by simp
  rw [of_emptied, visits, inlined.visits_emptied, ← of_emptied, visits]

theorem groups (inlined : Inlined as bs) : groupPaths as = groupPaths bs := by
  have of_kinds : ∀ attrs, groupPaths attrs =
      (((visits attrs).map fun v => (v.path, v.value.kind)).filter (·.2 == .group)).map Prod.fst := by
    intro attrs
    have same : ∀ v : Visit, (v.value.kind == .group) = v.value.isGroup := by
      rintro ⟨path, value⟩
      cases value <;> rfl
    rw [groupPaths, groupsUnder, List.filter_map, List.map_map, visits]
    simp [Function.comp_def, same]
  rw [of_kinds, of_kinds, inlined.kinds]

theorem content (inlined : Inlined as bs) : SameContent as bs where
  leaves := .of_eq (inlined.leaves "")
  groups p := by rw [inlined.groups]

theorem render (inlined : Inlined as bs) (l : Leaf σ) {u v : Record} (first : u.attrs = as)
    (second : v.attrs = bs) : l.renderAttrs u = l.renderAttrs v := by
  have merged : leafVisits (l.scope.merged u) = leafVisits (l.scope.merged v) := by
    change leavesUnder "" _ = leavesUnder "" _
    rw [Scope.merged, Scope.merged, leavesUnder_append, leavesUnder_append, leavesUnder_map_nestIn,
      leavesUnder_map_nestIn, first, second, inlined.leaves]
  rw [Leaf.renderAttrs, Leaf.renderAttrs, flatText, flatText, merged]

end Inlined

/-- With the children of a group without a name in its place, the same paths and kinds are visited in
the same order with the same plain values, so no visitor that does not look into groups tells the two
lists apart. Two records with these lists are printed alike in every scope, and every test that a
configuration can ask for answers alike on them. -/
theorem unnamed_group_is_its_children {as bs : List Attr} (inlined : Inlined as bs) :
    (visits as).map (fun v => (v.path, v.value.kind)) =
      (visits bs).map (fun v => (v.path, v.value.kind)) ∧
    leafVisits as = leafVisits bs ∧
    (∀ visit : Visitor σ, (∀ v s, visit v.emptied s = visit v s) →
      ∀ s, walk visit as s = walk visit bs s) ∧
    ∀ u v : Record, u.attrs = as → v.attrs = bs →
      (∀ l : Leaf σ, l.renderAttrs u = l.renderAttrs v) ∧
      (u.level = v.level → u.message = v.message → ∀ (p : PredicateSpec) (c : Context) (s : σ),
        p.predicate.holds c u s = p.predicate.holds c v s) := by
  refine ⟨inlined.kinds, inlined.leaves "", ?_, ?_⟩
  · intro visit blind s
    rw [walk, walk, walkUnder_eq_feed, walkUnder_eq_feed, ← feed_emptied blind,
      inlined.visits_emptied, feed_emptied blind]
  · intro u v first second
    refine ⟨fun l => inlined.render l first second, fun level message p c s => ?_⟩
    have same : SameRecord u v := ⟨level, message, first ▸ second ▸ inlined.content⟩
    rw [p.holds_predicate, p.holds_predicate, p.holds_congr same]

/-- One of two such groups in each other, between fields of a group that has a name. -/
theorem unnamed_group_is_its_children_nested :
    let x : Attr := .mk "x" (.bool true)
    let y : Attr := .mk "y" (.bool false)
    let as : List Attr := [.group "g" [x, .group "" [.group "" [y]], x]]
    let bs : List Attr := [.group "g" [x, .group "" [y], x]]
    let u : Record := ⟨⟨0, 0⟩, .info, "m", as⟩
    let v : Record := ⟨⟨1, 0⟩, .info, "m", bs⟩
    let test : PredicateSpec := .attrKindIs (.ofList [("g.y", .bool), ("g", .group)])
    let count : Visitor Nat := fun _ n => (true, n + 1)
    Inlined as bs ∧ leafVisits as = leafVisits bs ∧ (∀ v n, count v.emptied n = count v n) ∧
      walk count as 0 = walk count bs 0 ∧
      (∀ scope, (⟨"log", scope, .log .info⟩ : Leaf Nat).renderAttrs u =
        (⟨"log", scope, .log .info⟩ : Leaf Nat).renderAttrs v) ∧
      test.predicate.holds .background u 0 = test.predicate.holds .background v 0 := by
  intro x y as bs u v test count
  have inlined : Inlined as bs := .inside [] "g" [] (.here [x] [.group "" [y]] [x])
  have blind : ∀ v n, count v.emptied n = count v n := fun _ _ => rfl
  obtain ⟨_, leaves, walks, records⟩ := unnamed_group_is_its_children (σ := Nat) inlined
  obtain ⟨printed, tested⟩ := records u v rfl rfl
  exact ⟨inlined, leaves, blind, walks count blind 0, fun scope => printed ⟨"log", scope, .log .info⟩,
    tested rfl rfl test .background 0⟩

end LogTree
