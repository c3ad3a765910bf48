import LogTree.Proofs.Flattening

/-!
What a scope holds, binding by binding. Each list that was bound stands in one block below the
groups that were open for it, and the attributes of a record come last. Blocks of one group stand
together, so the order of the blocks is not that of the bindings. Main statement: `nothing_lost`.
-/
namespace LogTree

@[simp] theorem joinPath_empty (under : String) : joinPath under "" = under := by
  by_cases top : under = "" <;> simp [joinPath, top]

@[simp] theorem joinPath_root (key : Key) : joinPath "" key = key := by simp [joinPath]

theorem joinPath_assoc (under : String) (a b : Key) :
    joinPath (joinPath under a) b = joinPath under (joinPath a b) := by
  by_cases top : under = ""
  · simp [top]
  · by_cases first : a = ""
    · simp [first]
    · by_cases second : b = ""
      · simp [second]
      · simp [joinPath, top, first, second, String.append_assoc]

/-- Below a path that ends in nothing the visit is as it was, and an empty path becomes that path. -/
def Visit.below (under : String) (v : Visit) : Visit := ⟨joinPath under v.path, v.value⟩

theorem leavesUnder_joinPath (outer under : String) (attrs : List Attr) :
    leavesUnder (joinPath outer under) attrs = (leavesUnder under attrs).map (Visit.below outer) := by
  induction attrs using attrs_induction generalizing under with
  | nil => simp
  | value key v rest plain ih =>
    have here : ∀ path, leavesUnder path (.mk key v :: rest) =
        ⟨joinPath path key, v⟩ :: leavesUnder path rest := by
      intro path
      simp [leavesUnder, visitsUnder_value path key plain, plain]
    rw [here, here, List.map_cons, ih, joinPath_assoc]
    rfl
  | group key inner rest inside ih =>
    rw [leavesUnder_group, leavesUnder_group, List.map_append, ih, joinPath_assoc, inside]

def dotted (names : List Key) : String := ".".intercalate (names.filter (· ≠ ""))

theorem pathInto_filter (under : String) (names : List Key) :
    pathInto under (names.filter (· ≠ "")) = pathInto under names := by
  induction names generalizing under with
  | nil => rfl
  | cons name rest ih =>
    by_cases empty : name = ""
    · have skip : pathInto under (name :: rest) = pathInto under rest := by
        simp [pathInto, empty]
      rw [skip, ← ih, empty]
      rfl
    · rw [List.filter_cons_of_pos (by simpa using empty)]
      exact ih (joinPath under name)

theorem pathInto_eq_dotted (names : List Key) : pathInto "" names = dotted names := by
  have named : ∀ g ∈ names.filter (· ≠ ""), g ≠ "" := by
    intro g hg
    simpa using (List.mem_filter.mp hg).2
  rw [← pathInto_filter]
  exact (pathInto_eq_intercalate named).1

def leavesInside (groups : List Key) (attrs : List Attr) : List Visit :=
  (leafVisits attrs).map (Visit.below (dotted groups))

theorem leavesInside_eq (groups : List Key) (attrs : List Attr) :
    leavesInside groups attrs = leavesUnder (pathInto "" groups) attrs := by
  have moved := leavesUnder_joinPath (dotted groups) "" attrs
  rw [joinPath_empty] at moved
  rw [pathInto_eq_dotted, moved]
  rfl

/-- Appended attributes are one block inside everything else. -/
theorem leafVisits_appendUnder (groups : List Key) (actual new : List Attr) :
    ∃ pre post, leafVisits actual = pre ++ post ∧
      leafVisits (appendUnder groups actual new) = pre ++ leavesInside groups new ++ post := by
  rw [leavesInside_eq]
  exact leavesUnder_appendUnder "" groups actual new

namespace Derivation

/-- The names that are opened, outermost first; an empty one is among them and opens nothing. -/
def opened : List Derivation → List Key
  | [] => []
  | .attrs _ :: rest => opened rest
  | .group name :: rest => name :: opened rest

/-- Each list that is bound, with the names that are opened before it. -/
def bindings (before : List Key) : List Derivation → List (List Key × List Attr)
  | [] => []
  | .attrs as :: rest => (before, as) :: bindings before rest
  | .group name :: rest => bindings (before ++ [name]) rest

end Derivation

namespace Scope

theorem groups_withGroup (s : Scope) (name : Key) :
    (s.withGroup name).groups = s.groups ++ [name].filter (· ≠ "") := by
  by_cases empty : name = ""
  · simp [withGroup, empty]
  · simp [withGroup, empty]

theorem attrs_withGroup (s : Scope) (name : Key) : (s.withGroup name).attrs = s.attrs := by
  unfold withGroup
  split <;> rfl

theorem groups_derived (ds : List Derivation) (s : Scope) :
    (ds.foldl derive s).groups = s.groups ++ (Derivation.opened ds).filter (· ≠ "") := by
  induction ds generalizing s with
  | nil => simp [Derivation.opened]
  | cons d ds ih =>
    rw [List.foldl_cons, ih]
    cases d with
    | attrs as => rfl
    | group name =>
      have front : (name :: Derivation.opened ds).filter (· ≠ "") =
          [name].filter (· ≠ "") ++ (Derivation.opened ds).filter (· ≠ "") :=
        List.filter_append [name] _
      rw [derive, groups_withGroup, Derivation.opened, front, List.append_assoc]

/-- Each step that binds adds its block, wherever it goes; the others add nothing. -/
theorem leaves_derived (ds : List Derivation) (s : Scope) (before : List Key)
    (open_groups : s.groups = before.filter (· ≠ "")) :
    (leafVisits (ds.foldl derive s).attrs).Perm (leafVisits s.attrs ++
      (Derivation.bindings before ds).flatMap fun x => leavesInside x.1 x.2) := by
  induction ds generalizing s before with
  | nil => simp [Derivation.bindings]
  | cons d ds ih =>
    cases d with
    | attrs as =>
      obtain ⟨pre, post, whole, bound⟩ := leafVisits_appendUnder s.groups s.attrs as
      have block : leavesInside s.groups as = leavesInside before as := by
        rw [leavesInside_eq, leavesInside_eq, open_groups, pathInto_filter]
      have added : (leafVisits (s.withAttrs as).attrs).Perm
          (leafVisits s.attrs ++ leavesInside before as) := by
        rw [withAttrs, bound, whole, block, List.append_assoc, List.append_assoc]
        exact List.perm_append_comm.append_left pre
      have later := ih (s.withAttrs as) before open_groups
      rw [Derivation.bindings, List.flatMap_cons, ← List.append_assoc]
      exact later.trans (added.append_right _)
    | group name =>
      have later := ih (s.withGroup name) (before ++ [name]) (by
        rw [groups_withGroup, open_groups, List.filter_append])
      rw [attrs_withGroup] at later
      exact later

/-- Appending under any path of groups puts the new values into one block, with that path in front
of theirs, and leaves the others around it as they are. So what a record shows in a scope is what was
bound, each list once and inside the groups that were open for it, and after that the record's own
attributes, in order, inside the groups that are open now. -/
theorem nothing_lost :
    (∀ (groups : List Key) (actual new : List Attr), ∃ pre post,
      leafVisits actual = pre ++ post ∧
        leafVisits (appendUnder groups actual new) =
          pre ++ (leafVisits new).map (Visit.below (dotted groups)) ++ post) ∧
    ∀ (ds : List Derivation) (r : Record), ∃ bound,
      leafVisits ((ds.foldl derive .empty).merged r) =
        bound ++ (leafVisits r.attrs).map (Visit.below (dotted (Derivation.opened ds))) ∧
      bound.Perm ((Derivation.bindings [] ds).flatMap fun x =>
        (leafVisits x.2).map (Visit.below (dotted x.1))) := by
  refine ⟨leafVisits_appendUnder, fun ds r => ?_⟩
  have bound := leaves_derived ds .empty [] rfl
  rw [show leafVisits Scope.empty.attrs = [] from leavesUnder_nil "", List.nil_append] at bound
  refine ⟨leafVisits (ds.foldl derive .empty).attrs, ?_, bound⟩
  have own : leavesUnder "" (r.attrs.map (nestIn (ds.foldl derive .empty).groups)) =
      leavesInside (Derivation.opened ds) r.attrs := by
    rw [leavesUnder_map_nestIn, groups_derived, leavesInside_eq]
    exact congrArg (leavesUnder · r.attrs) (pathInto_filter "" _)
  exact (leavesUnder_append "" _ _).trans (congrArg (leafVisits _ ++ ·) own)

end Scope
end LogTree
