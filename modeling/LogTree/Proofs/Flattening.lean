import LogTree.Scope
import LogTree.Proofs.Search
import Mathlib.Data.List.Induction

/-!
What nested attributes say once they are flattened: the values with their paths, in order, and the
paths of the groups. Nesting puts a list below its groups as it is; appending puts it there in one
block and leaves everything else as it was.
-/
namespace LogTree

def leavesUnder (under : String) (attrs : List Attr) : List Visit :=
  (visitsUnder under attrs).filter (!·.value.isGroup)

def groupsUnder (under : String) (attrs : List Attr) : List String :=
  ((visitsUnder under attrs).filter (·.value.isGroup)).map Visit.path

def groupPaths (attrs : List Attr) : List String := groupsUnder "" attrs

def pathInto (under : String) (groups : List Key) : String := groups.foldl joinPath under

/-- The path of one group, if it has a name. -/
def groupPath (under : String) (key : Key) : List String :=
  if key == "" then [] else [joinPath under key]

def openedUnder (under : String) : List Key → List String
  | [] => []
  | key :: rest => groupPath under key ++ openedUnder (joinPath under key) rest

theorem pathInto_append (under : String) (groups more : List Key) :
    pathInto under (groups ++ more) = pathInto (pathInto under groups) more :=
  List.foldl_append

theorem openedUnder_append (under : String) (groups more : List Key) :
    openedUnder under (groups ++ more) =
      openedUnder under groups ++ openedUnder (pathInto under groups) more := by
  induction groups generalizing under with
  | nil => rfl
  | cons key rest ih =>
    rw [List.cons_append, openedUnder, openedUnder, ih, List.append_assoc]
    rfl

/-- The path inside groups that have names is those names with points between them. -/
theorem pathInto_eq_intercalate {groups : List Key} (named : ∀ g ∈ groups, g ≠ "") :
    pathInto "" groups = ".".intercalate groups ∧
      (groups ≠ [] → pathInto "" groups ≠ "") := by
  induction groups using List.reverseRecOn with
  | nil => exact ⟨rfl, fun h => absurd rfl h⟩
  | append_singleton groups last ih =>
    obtain ⟨before, named_last⟩ := List.forall_mem_append.mp named
    have some_text : last ≠ "" := named_last last List.mem_cons_self
    obtain ⟨path, some_path⟩ := ih before
    have step : pathInto "" (groups ++ [last]) = joinPath (pathInto "" groups) last := by
      rw [pathInto_append]
      rfl
    rw [step, joinPath]
    cases groups with
    | nil => exact ⟨by simp [pathInto], fun _ => by simpa [pathInto] using some_text⟩
    | cons g rest =>
      have some_before := some_path (List.cons_ne_nil g rest)
      rw [if_neg (by simpa using some_before), if_neg (by simpa using some_text), path,
        String.intercalate_append_of_ne_nil (List.cons_ne_nil g rest) (List.cons_ne_nil _ _),
        String.intercalate_singleton]
      exact ⟨rfl, fun _ empty => absurd empty (by simp)⟩

@[simp] theorem leavesUnder_nil (under : String) : leavesUnder under [] = [] := by
  simp [leavesUnder]

@[simp] theorem groupsUnder_nil (under : String) : groupsUnder under [] = [] := by
  simp [groupsUnder]

theorem leavesUnder_append (under : String) (as bs : List Attr) :
    leavesUnder under (as ++ bs) = leavesUnder under as ++ leavesUnder under bs := by
  simp only [leavesUnder, visitsUnder_append, List.filter_append]

theorem groupsUnder_append (under : String) (as bs : List Attr) :
    groupsUnder under (as ++ bs) = groupsUnder under as ++ groupsUnder under bs := by
  simp only [groupsUnder, visitsUnder_append, List.filter_append, List.map_append]

theorem leavesUnder_group (under : String) (key : Key) (inner rest : List Attr) :
    leavesUnder under (.group key inner :: rest) =
      leavesUnder (joinPath under key) inner ++ leavesUnder under rest := by
  have here : (groupVisit under key inner).filter (!·.value.isGroup) = [] := by
    rw [groupVisit]
    split <;> rfl
  simp only [leavesUnder, visitsUnder_group, List.filter_append, here, List.nil_append]

theorem groupsUnder_group (under : String) (key : Key) (inner rest : List Attr) :
    groupsUnder under (.group key inner :: rest) =
      groupPath under key ++ groupsUnder (joinPath under key) inner ++ groupsUnder under rest := by
  have here : ((groupVisit under key inner).filter (·.value.isGroup)).map Visit.path =
      groupPath under key := by
    rw [groupVisit, groupPath]
    split <;> rfl
  simp only [groupsUnder, visitsUnder_group, List.filter_append, List.map_append, here]

theorem leavesUnder_nestIn (under : String) (groups : List Key) (a : Attr) :
    leavesUnder under [nestIn groups a] = leavesUnder (pathInto under groups) [a] := by
  induction groups generalizing under with
  | nil => rfl
  | cons key rest ih =>
    have nested : nestIn (key :: rest) a = .group key [nestIn rest a] := rfl
    rw [nested, leavesUnder_group, ih, leavesUnder_nil, List.append_nil]
    rfl

theorem groupsUnder_nestIn (under : String) (groups : List Key) (a : Attr) :
    groupsUnder under [nestIn groups a] =
      openedUnder under groups ++ groupsUnder (pathInto under groups) [a] := by
  induction groups generalizing under with
  | nil => rfl
  | cons key rest ih =>
    have nested : nestIn (key :: rest) a = .group key [nestIn rest a] := rfl
    rw [nested, groupsUnder_group, ih, groupsUnder_nil, List.append_nil, openedUnder]
    exact (List.append_assoc _ _ _).symm

theorem leavesUnder_map_nestIn (under : String) (groups : List Key) (attrs : List Attr) :
    leavesUnder under (attrs.map (nestIn groups)) = leavesUnder (pathInto under groups) attrs := by
  induction attrs with
  | nil => simp
  | cons a rest ih =>
    rw [List.map_cons, ← List.singleton_append, leavesUnder_append, leavesUnder_nestIn, ih,
      ← leavesUnder_append, List.singleton_append]

theorem mem_groupsUnder_map_nestIn (under : String) (groups : List Key) {attrs : List Attr}
    (some_attr : attrs ≠ []) (p : String) :
    p ∈ groupsUnder under (attrs.map (nestIn groups)) ↔
      p ∈ openedUnder under groups ∨ p ∈ groupsUnder (pathInto under groups) attrs := by
  induction attrs with
  | nil => contradiction
  | cons a rest ih =>
    rw [List.map_cons, ← List.singleton_append, groupsUnder_append, groupsUnder_nestIn,
      ← List.singleton_append (l := rest), groupsUnder_append]
    simp only [List.mem_append]
    cases rest with
    | nil => simp
    | cons b rest =>
      rw [ih (List.cons_ne_nil b rest)]
      tauto

theorem splitGroup_some {name : Key} {attrs pre inner post : List Attr}
    (found : splitGroup name attrs = some (pre, inner, post)) :
    attrs = pre ++ .group name inner :: post := by
  induction attrs generalizing pre with
  | nil => simp [splitGroup] at found
  | cons a rest ih =>
    obtain ⟨key, v⟩ := a
    have later : ∀ x, splitGroup name rest = some x →
        (Attr.mk key v :: x.1, x.2.1, x.2.2) = (pre, inner, post) →
        Attr.mk key v :: rest = pre ++ .group name inner :: post := by
      intro x deeper same
      simp only [Prod.mk.injEq] at same
      obtain ⟨rfl, rfl, rfl⟩ := same
      rw [ih deeper, List.cons_append]
    cases v with
    | group as =>
      simp only [splitGroup] at found
      split at found
      · rename_i here
        obtain ⟨rfl, rfl, rfl⟩ := by simpa using found
        rw [beq_iff_eq.mp here]
        rfl
      · obtain ⟨⟨_, _, _⟩, deeper, same⟩ := Option.map_eq_some_iff.mp found
        exact later _ deeper same
    | _ =>
      obtain ⟨⟨_, _, _⟩, deeper, same⟩ := Option.map_eq_some_iff.mp found
      exact later _ deeper same

/-- Appended attributes stand together at the end of their group, and nothing else moves. -/
theorem leavesUnder_appendUnder (under : String) (groups : List Key) (actual new : List Attr) :
    ∃ pre post, leavesUnder under actual = pre ++ post ∧
      leavesUnder under (appendUnder groups actual new) =
        pre ++ leavesUnder (pathInto under groups) new ++ post := by
  induction groups generalizing under actual with
  | nil =>
    refine ⟨leavesUnder under actual, [], by simp, ?_⟩
    rw [appendUnder, leavesUnder_append, List.append_nil]
    rfl
  | cons name rest ih =>
    rw [appendUnder]
    split
    · rename_i pre inner post found
      obtain ⟨left, right, split_inner, appended⟩ := ih (joinPath under name) inner
      refine ⟨leavesUnder under pre ++ left, right ++ leavesUnder under post, ?_, ?_⟩
      · rw [splitGroup_some found, leavesUnder_append, leavesUnder_group, split_inner]
        simp only [List.append_assoc]
      · rw [leavesUnder_append, leavesUnder_group, appended]
        simp only [List.append_assoc]
        rfl
    · obtain ⟨left, right, split_nil, appended⟩ := ih (joinPath under name) []
      rw [leavesUnder_nil, eq_comm, List.append_eq_nil_iff] at split_nil
      obtain ⟨rfl, rfl⟩ := split_nil
      refine ⟨leavesUnder under actual, [], by simp, ?_⟩
      rw [leavesUnder_append, leavesUnder_group, appended]
      simp [pathInto]

/-- Appending opens the groups that are not there, and adds those of the new attributes. -/
theorem mem_groupsUnder_appendUnder (under : String) (groups : List Key)
    (actual new : List Attr) (p : String) :
    p ∈ groupsUnder under (appendUnder groups actual new) ↔
      p ∈ groupsUnder under actual ∨ p ∈ openedUnder under groups ∨
        p ∈ groupsUnder (pathInto under groups) new := by
  induction groups generalizing under actual with
  | nil => simp [appendUnder, groupsUnder_append, openedUnder, pathInto]
  | cons name rest ih =>
    rw [appendUnder, openedUnder]
    have deeper : pathInto under (name :: rest) = pathInto (joinPath under name) rest := rfl
    rw [deeper]
    split
    · rename_i pre inner post found
      rw [splitGroup_some found, groupsUnder_append, groupsUnder_group, groupsUnder_append,
        groupsUnder_group]
      simp only [List.mem_append, ih]
      tauto
    · rw [groupsUnder_append, groupsUnder_group, groupsUnder_nil]
      simp only [List.mem_append, ih, groupsUnder_nil, List.not_mem_nil]
      tauto

end LogTree
