import LogTree.CommandLine.Emit
import LogTree.Proofs.Flattening
import LogTree.Proofs.Meaning

/-!
The texts that a report shows of a captured record. All values of an emission are single values, so
each attribute shows as one text: the bound ones by their keys, the others by their path through the
groups that have names. Main statement: `texts_view`.
-/
namespace LogTree
open Config

theorem leavesUnder_values (under : String) {attrs : List Attr}
    (plain : ∀ a ∈ attrs, a.value.isGroup = false) :
    leavesUnder under attrs = attrs.map fun a => ⟨joinPath under a.key, a.value⟩ := by
  induction attrs with
  | nil => rw [leavesUnder_nil, List.map_nil]
  | cons a rest ih =>
    obtain ⟨first, others⟩ := List.forall_mem_cons.mp plain
    obtain ⟨key, v⟩ := a
    have here : v.isGroup = false := first
    rw [leavesUnder, visitsUnder_value under key here, List.filter_cons, here]
    exact congrArg (_ :: ·) (ih others)

theorem joinPath_pathInto {groups : List Key} (named : ∀ g ∈ groups, g ≠ "") {key : Key}
    (keyed : key ≠ "") :
    joinPath (pathInto "" groups) key = ".".intercalate (groups ++ [key]) := by
  have all : ∀ g ∈ groups ++ [key], g ≠ "" :=
    List.forall_mem_append.mpr ⟨named, List.forall_mem_singleton.mpr keyed⟩
  rw [← (pathInto_eq_intercalate all).1, pathInto_append]
  rfl

namespace CommandLine

theorem isGroup_inferValue (s : String) : (inferValue s).isGroup = false := by
  unfold inferValue
  split
  · rfl
  · split
    · rfl
    · split <;> rfl

namespace EmitOptions

/-- What a captured record shows of the options: what is bound, then the rest inside the groups. -/
def texts (o : EmitOptions) : List String :=
  o.bound.map (fun p => p.1 ++ "=" ++ (inferValue p.2).text) ++
    o.attrs.map fun p =>
      ".".intercalate (o.groups.filter (· != "") ++ [p.1]) ++ "=" ++ (inferValue p.2).text

def call (o : EmitOptions) (now : Instant) : Call :=
  ⟨.attrs (inferAttrs o.bound) :: o.groups.map .group, now, o.level, o.message, inferAttrs o.attrs⟩

theorem scope_call (o : EmitOptions) (now : Instant) :
    (o.call now).scope = ⟨o.groups.filter (· != ""), inferAttrs o.bound⟩ := by
  have opened : ∀ (groups : List String) (s : Scope),
      ((groups.map Derivation.group).filter Derivation.binds).foldl Scope.derive s =
        ⟨s.groups ++ groups.filter (· != ""), s.attrs⟩ := by
    intro groups
    induction groups with
    | nil => intro s; simp
    | cons g rest ih =>
      intro s
      have binds : (Derivation.group g).binds = true := rfl
      rw [List.map_cons, List.filter_cons, if_pos binds, List.foldl_cons, ih, List.filter_cons]
      by_cases empty : g = ""
      · subst empty
        rfl
      · simp [Scope.derive, Scope.withGroup, empty]
  rw [Call.scope, call, List.filter_cons]
  split
  · rw [List.foldl_cons, opened]
    simp [Scope.derive, Scope.withAttrs, Scope.empty, appendUnder]
  · rename_i idle
    have none : inferAttrs o.bound = [] := by simpa [Derivation.binds] using idle
    rw [opened, none]
    rfl

theorem texts_view (o : EmitOptions) (keyed : ∀ p ∈ o.attrs, p.1 ≠ "") (now : Instant) :
    EmitReport.attrTexts (o.call now).view = o.texts := by
  have plain : ∀ ps : List (String × String), ∀ a ∈ inferAttrs ps, a.value.isGroup = false := by
    intro ps a ha
    obtain ⟨p, _, rfl⟩ := List.mem_map.mp ha
    exact isGroup_inferValue p.2
  have named : ∀ g ∈ o.groups.filter (· != ""), g ≠ "" := by
    intro g hg
    simpa using (List.mem_filter.mp hg).2
  have leaves : leafVisits (o.call now).view.attrs =
      leavesUnder "" (inferAttrs o.bound) ++
        leavesUnder (pathInto "" (o.groups.filter (· != ""))) (inferAttrs o.attrs) := by
    rw [Call.view_eq, Scope.attrs_view, scope_call]
    show leavesUnder "" _ = _
    rw [Scope.merged, leavesUnder_append, leavesUnder_map_nestIn]
    rfl
  rw [EmitReport.attrTexts, leaves, leavesUnder_values "" (plain _), leavesUnder_values _ (plain _),
    List.map_append, texts]
  simp only [inferAttrs, List.map_map]
  congr 1
  refine List.map_congr_left fun p hp => ?_
  rw [← joinPath_pathInto named (keyed p hp)]
  rfl

end EmitOptions

end CommandLine
end LogTree
