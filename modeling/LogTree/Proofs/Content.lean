import LogTree.Proofs.Configured
import LogTree.Proofs.Flattening

/-!
Only what attributes say once they are flattened matters. Two calls whose views say the same reach the
same leaves and store the same, so it does not matter whether attributes are bound or given with the
call, nor whether a group is opened or written out. Main statement: `log_depends_on_content`.
-/
namespace LogTree
open Config
variable {σ : Type}

/-- The same values at the same paths, each as often, and groups at the same paths. -/
structure SameContent (as bs : List Attr) : Prop where
  leaves : (leafVisits as).Perm (leafVisits bs)
  groups : ∀ p, p ∈ groupPaths as ↔ p ∈ groupPaths bs

theorem SameContent.append_right {as bs : List Attr} (same : SameContent as bs) (cs : List Attr) :
    SameContent (as ++ cs) (bs ++ cs) where
  leaves := by
    change (leavesUnder "" (as ++ cs)).Perm (leavesUnder "" (bs ++ cs))
    rw [leavesUnder_append, leavesUnder_append]
    exact same.leaves.append_right _
  groups p := by
    have here := same.groups p
    simp only [groupPaths] at here ⊢
    rw [groupsUnder_append, groupsUnder_append, List.mem_append, List.mem_append, here]

/-- Appending under groups says what nesting each attribute says. -/
theorem same_appendUnder (groups : List Key) (actual : List Attr) {new : List Attr}
    (some_attr : new ≠ []) :
    SameContent (appendUnder groups actual new) (actual ++ new.map (nestIn groups)) where
  leaves := by
    obtain ⟨pre, post, split_actual, appended⟩ := leavesUnder_appendUnder "" groups actual new
    change (leavesUnder "" _).Perm (leavesUnder "" _)
    rw [appended, leavesUnder_append, split_actual, leavesUnder_map_nestIn, List.append_assoc,
      List.append_assoc]
    exact List.perm_append_comm.append_left pre
  groups p := by
    simp only [groupPaths]
    rw [mem_groupsUnder_appendUnder, groupsUnder_append, List.mem_append,
      mem_groupsUnder_map_nestIn "" groups some_attr]

/-- A group that is opened says what a group that is written out says. -/
theorem same_opened (groups : List Key) (name : Key) (actual : List Attr) {new : List Attr}
    (some_attr : new ≠ []) :
    SameContent (actual ++ new.map (nestIn (groups ++ [name])))
      (actual ++ [Attr.group name new].map (nestIn groups)) where
  leaves := by
    change (leavesUnder "" _).Perm (leavesUnder "" _)
    rw [leavesUnder_append, leavesUnder_append, leavesUnder_map_nestIn, leavesUnder_map_nestIn,
      leavesUnder_group, leavesUnder_nil, List.append_nil, pathInto_append]
    exact .refl _
  groups p := by
    have written : [Attr.group name new] ≠ [] := List.cons_ne_nil _ _
    simp only [groupPaths]
    rw [groupsUnder_append, groupsUnder_append, List.mem_append, List.mem_append,
      mem_groupsUnder_map_nestIn "" _ some_attr, mem_groupsUnder_map_nestIn "" _ written,
      groupsUnder_group, groupsUnder_nil, List.append_nil, List.mem_append, openedUnder_append,
      List.mem_append, pathInto_append, openedUnder, openedUnder, List.append_nil, or_assoc]
    rfl

theorem any_visits_eq_leaves {test : Visit → Bool} (attrs : List Attr)
    (no_group : ∀ x : Visit, x.value.isGroup = true → test x = false) :
    (visits attrs).any test = (leafVisits attrs).any test := by
  rw [leafVisits, List.any_filter]
  congr 1
  funext x
  cases nested : x.value.isGroup with
  | true => rw [no_group x nested]; rfl
  | false => rfl

theorem any_visits_eq_groups (attrs : List Attr) (path : String) :
    (visits attrs).any (fun x => path == x.path && .group == x.value.kind) =
      (groupPaths attrs).any (path == ·) := by
  rw [groupPaths, groupsUnder, List.any_map, List.any_filter, visits]
  congr 1
  funext x
  obtain ⟨here, v⟩ := x
  cases v <;> simp [Value.isGroup, Value.asGroup?, Value.kind, Bool.and_comm]

/-- What the first list says the second one says too. -/
structure Included (as bs : List Attr) : Prop where
  leaves : leafVisits as ⊆ leafVisits bs
  groups : groupPaths as ⊆ groupPaths bs

theorem SameContent.included {as bs : List Attr} (same : SameContent as bs) : Included as bs :=
  ⟨same.leaves.subset, fun p => (same.groups p).mp⟩

theorem SameContent.symm {as bs : List Attr} (same : SameContent as bs) : SameContent bs as :=
  ⟨same.leaves.symm, fun p => (same.groups p).symm⟩

theorem Included.any_leaves {as bs : List Attr} (more : Included as bs) {test : Visit → Bool}
    (no_group : ∀ x : Visit, x.value.isGroup = true → test x = false)
    (found : (visits as).any test = true) : (visits bs).any test = true := by
  rw [any_visits_eq_leaves as no_group, List.any_eq_true] at found
  rw [any_visits_eq_leaves bs no_group, List.any_eq_true]
  obtain ⟨x, hx, hit⟩ := found
  exact ⟨x, more.leaves hx, hit⟩

theorem Included.any_kind {as bs : List Attr} (more : Included as bs) (path : String)
    (kind : ValueKind)
    (found : (visits as).any (fun x => path == x.path && kind == x.value.kind) = true) :
    (visits bs).any (fun x => path == x.path && kind == x.value.kind) = true := by
  by_cases group : kind = .group
  · subst group
    rw [any_visits_eq_groups, List.any_eq_true] at found ⊢
    obtain ⟨p, hp, here⟩ := found
    exact ⟨p, more.groups hp, here⟩
  · refine more.any_leaves ?_ found
    rintro ⟨here, v⟩ nested
    cases v with
    | group _ => simp [Value.kind, group]
    | _ => contradiction

theorem Included.any_scalar {as bs : List Attr} (more : Included as bs) (path : String)
    (expected : Scalar)
    (found : (visits as).any (fun x => path == x.path && expected.value == x.value) = true) :
    (visits bs).any (fun x => path == x.path && expected.value == x.value) = true := by
  refine more.any_leaves ?_ found
  rintro ⟨here, v⟩ nested
  cases v with
  | group inner =>
    have differ : (expected.value == Value.group inner) = false := by
      cases expected <;> rfl
    rw [differ, Bool.and_false]
  | _ => contradiction

namespace Config

structure SameRecord (u v : Record) : Prop where
  level : u.level = v.level
  message : u.message = v.message
  content : SameContent u.attrs v.attrs

/-- The same record, but for attributes that say more. -/
structure Extends (u v : Record) : Prop where
  level : u.level = v.level
  message : u.message = v.message
  content : Included u.attrs v.attrs

theorem SameRecord.extends {u v : Record} (same : SameRecord u v) : Extends u v :=
  ⟨same.level, same.message, same.content.included⟩

theorem SameRecord.symm {u v : Record} (same : SameRecord u v) : SameRecord v u :=
  ⟨same.level.symm, same.message.symm, same.content.symm⟩

theorem PredicateSpec.holds_extends {u v : Record} (more : Extends u v) (p : PredicateSpec)
    (here : p.holds u = true) : p.holds v = true := by
  cases p with
  | levelIs _ | levelIsNot _ => rwa [holds, ← more.level]
  | messageIs _ | messageIsNot _ | messageContains _ | messageNotContains _ =>
    rwa [holds, ← more.message]
  | attrValueIs attrs =>
    rw [holds, List.all_eq_true] at here ⊢
    exact fun e he => more.content.any_scalar e.1 e.2 (here e he)
  | attrKindIs attrs =>
    rw [holds, List.all_eq_true] at here ⊢
    exact fun e he => more.content.any_kind e.1 e.2 (here e he)

theorem PredicateSpec.holds_congr {u v : Record} (same : SameRecord u v) (p : PredicateSpec) :
    p.holds u = p.holds v :=
  Bool.eq_iff_iff.mpr ⟨p.holds_extends same.extends, p.holds_extends same.symm.extends⟩

theorem Node.reach_congr {u v : Record} (same : SameRecord u v) (least? : String → Option Level)
    (n : Node) : n.reach least? u = n.reach least? v := by
  induction n using induction with
  | sink name => rw [reach, reach, same.level]
  | group strategy members ih =>
    have each : offers least? u members = offers least? v members := by
      rw [offers_eq_map, offers_eq_map, same.level]
      exact List.map_congr_left fun n hn => by rw [ih n hn]
    cases strategy <;> rw [reach, reach, each]
  | router routes first ih =>
    have each : matching least? u routes = matching least? v routes := by
      have tests : PredicateSpec.holds u = PredicateSpec.holds v :=
        funext (PredicateSpec.holds_congr same)
      rw [matching_eq_map, matching_eq_map, tests]
      exact List.map_congr_left fun r hr => ih r (List.mem_filter.mp hr).1
    cases first <;> rw [reach, reach, each]

end Config

structure Delivery.Alike (d e : Delivery) : Prop where
  sink : d.sink = e.sink
  buffer : d.buffer = e.buffer
  stored : SameRecord (d.scope.view d.record) (e.scope.view e.record)

namespace Call

/-- With the same starts to come, both calls answer the same, reach the same leaves in the same
order, store alike and leave the same starts. -/
def Agree (root : Sink σ) (q q' : Call) : Prop :=
  ∀ w w' : World σ, w.starts = w'.starts →
    ∃ answer ds ds' left v v', q.log root w = (answer, v) ∧ q'.log root w' = (answer, v') ∧
      w.Adds ds left v ∧ w'.Adds ds' left v' ∧ List.Forall₂ Delivery.Alike ds ds'

theorem agree_of_same {leafAt : String → Leaf σ} {b : Blueprint}
    (plain : ∀ name ∈ b.root.references, (leafAt name).Plain (b.least? name)) {q q' : Call}
    (same : SameRecord q.view q'.view) : Agree (b.tree leafAt) q q' := by
  intro w w' starts
  obtain ⟨v, fine, follows⟩ := log_follows plain q w
  obtain ⟨v', fine', follows'⟩ := log_follows plain q' w'
  rw [World.Follows, Blueprint.reach, ← Node.reach_congr same, ← starts] at follows'
  refine ⟨.fine, _, _, _, v, v', fine, fine', follows, follows', ?_⟩
  rw [List.forall₂_map_left_iff, List.forall₂_map_right_iff]
  rw [view_eq, view_eq] at same
  exact List.forall₂_same.mpr fun _ _ => ⟨rfl, rfl, same⟩

theorem scope_snoc (path : List Derivation) {d : Derivation} (binds : d.binds = true)
    (t : Instant) (level : Level) (message : String) (own : List Attr) :
    Call.scope ⟨path ++ [d], t, level, message, own⟩ =
      (Call.scope ⟨path, t, level, message, own⟩).derive d := by
  rw [Call.scope, List.filter_append, List.foldl_append, List.filter_cons, if_pos binds]
  rfl

theorem same_view_bound (path : List Derivation) (t t' : Instant) (level : Level)
    (message : String) {attrs : List Attr} (some_attr : attrs ≠ []) (own : List Attr) :
    SameRecord (Call.view ⟨path ++ [.attrs attrs], t, level, message, own⟩)
      (Call.view ⟨path, t', level, message, attrs ++ own⟩) := by
  have binds : Derivation.binds (.attrs attrs) = true := by
    cases attrs with
    | nil => contradiction
    | cons _ _ => rfl
  let scope := Call.scope ⟨path, t, level, message, own⟩
  have same := same_appendUnder scope.groups scope.attrs some_attr
  refine ⟨rfl, rfl, ?_⟩
  rw [view_eq, scope_snoc path binds, Scope.attrs_view, view_eq, Scope.attrs_view, Scope.merged,
    Scope.merged, record, record, List.map_append, ← List.append_assoc]
  exact same.append_right _

theorem same_view_opened (path : List Derivation) (t t' : Instant) (level : Level)
    (message : String) {name : Key} (named : name ≠ "") {attrs : List Attr}
    (some_attr : attrs ≠ []) :
    SameRecord (Call.view ⟨path ++ [.group name], t, level, message, attrs⟩)
      (Call.view ⟨path, t', level, message, [Attr.group name attrs]⟩) := by
  let scope := Call.scope ⟨path, t, level, message, attrs⟩
  have opened : scope.derive (.group name) = ⟨scope.groups ++ [name], scope.attrs⟩ := by
    rw [Scope.derive, Scope.withGroup, if_neg (by simpa using named)]
  have same := same_opened scope.groups name scope.attrs some_attr
  refine ⟨rfl, rfl, ?_⟩
  rw [view_eq, scope_snoc path rfl, opened, Scope.attrs_view, view_eq, Scope.attrs_view,
    Scope.merged, Scope.merged]
  exact same

end Call

namespace Config.Blueprint

/-- Calls on a tree that was built from a valid configuration agree as soon as their views say the
same. Binding attributes, or giving them with the call; opening a group, or writing it out: the views
say the same. -/
theorem log_depends_on_content {b : Blueprint} (valid : b.validate = .ok ()) (next : BufferId)
    (w : World σ) :
    ∃ g root w₁ w₂, Registry.ofBlueprint next b w = (.ok g, w₁) ∧ g.build b w₁ = (.ok root, w₂) ∧
      (∀ q q' : Call, SameRecord q.view q'.view → Call.Agree root q q') ∧
      (∀ path t t' level message attrs own, attrs ≠ [] →
        Call.Agree root ⟨path ++ [.attrs attrs], t, level, message, own⟩
          ⟨path, t', level, message, attrs ++ own⟩) ∧
      ∀ path t t' level message name attrs, name ≠ "" → attrs ≠ [] →
        Call.Agree root ⟨path ++ [.group name], t, level, message, attrs⟩
          ⟨path, t', level, message, [Attr.group name attrs]⟩ := by
  obtain ⟨g, w₁, w₂, made, built, _, _⟩ := built_of_valid valid next w
  have agree : ∀ q q' : Call, SameRecord q.view q'.view →
      Call.Agree (b.tree (Registry.leafAt next b.sinks) : Sink σ) q q' :=
    fun q q' same => Call.agree_of_same (plain_of_valid valid next) same
  refine ⟨g, _, w₁, w₂, made, built, agree, ?_, ?_⟩
  · intro path t t' level message attrs own some_attr
    exact agree _ _ (Call.same_view_bound path t t' level message some_attr own)
  · intro path t t' level message name attrs named some_attr
    exact agree _ _ (Call.same_view_opened path t t' level message named some_attr)

theorem log_depends_on_content_group :
    let b : Blueprint := ⟨.v1, false, [⟨"a", .memory, .info⟩, ⟨"b", .memory, .info⟩],
      .router [([.attrKindIs (.ofList [("user", .group)])], .sink "a"), ([], .sink "b")] true⟩
    let field : Attr := .mk "id" (.bool true)
    b.validate = .ok () ∧
    ∃ g root w₁ w₂, Registry.ofBlueprint 0 b (.start () fun _ => 0) = (.ok g, w₁) ∧
      g.build b w₁ = (.ok root, w₂) ∧
      Call.Agree root ⟨[.group "user", .attrs [field]], ⟨0, 0⟩, .info, "m", [field]⟩
        ⟨[.group "user"], ⟨1, 0⟩, .info, "m", [field, field]⟩ ∧
      Call.Agree root ⟨[.group "user"], ⟨0, 0⟩, .info, "m", [field]⟩
        ⟨[], ⟨1, 0⟩, .info, "m", [Attr.group "user" [field]]⟩ := by
  intro b field
  have valid : b.validate = .ok () := by rfl
  obtain ⟨g, root, w₁, w₂, made, built, _, bound, opened⟩ :=
    log_depends_on_content valid 0 (World.start () fun _ => 0)
  refine ⟨valid, g, root, w₁, w₂, made, built, ?_, ?_⟩
  · exact bound [.group "user"] _ _ _ _ [field] [field] (List.cons_ne_nil _ _)
  · exact opened [] _ _ _ _ "user" [field] (by decide) (List.cons_ne_nil _ _)

end Config.Blueprint
end LogTree
