import LogTree.Config.Validate
import LogTree.Config.Warning
import Mathlib.Data.List.Basic

/-!
Trees of nodes, and what validation promises about them: the names of the sinks are distinct, and
every name in the tree is one of them.
-/
namespace LogTree.Config

namespace Node

/-- What holds of a node as soon as it holds of its children holds of every node. -/
@[elab_as_elim]
theorem induction {motive : Node → Prop} (sink : ∀ name, motive (.sink name))
    (group : ∀ strategy members, (∀ n ∈ members, motive n) → motive (.group strategy members))
    (router : ∀ (routes : List (List PredicateSpec × Node)) first,
      (∀ r ∈ routes, motive r.2) → motive (.router routes first)) (n : Node) : motive n := by
  refine @Node.rec motive (fun ns => ∀ n ∈ ns, motive n) (fun rs => ∀ r ∈ rs, motive r.2)
    (fun r => motive r.2) sink group router ?_ ?_ ?_ ?_ ?_ n
  · exact fun _ h => absurd h List.not_mem_nil
  · exact fun _ _ first others => List.forall_mem_cons.mpr ⟨first, others⟩
  · exact fun _ h => absurd h List.not_mem_nil
  · exact fun _ _ first others => List.forall_mem_cons.mpr ⟨first, others⟩
  · exact fun _ _ target => target

theorem referencesOfEach_eq_flatMap (ns : List Node) :
    referencesOfEach ns = ns.flatMap references := by
  induction ns with
  | nil => simp [referencesOfEach]
  | cons n rest ih => simp [referencesOfEach, ih]

theorem referencesOfTargets_eq_flatMap (rs : List (List PredicateSpec × Node)) :
    referencesOfTargets rs = rs.flatMap fun r => r.2.references := by
  induction rs with
  | nil => simp [referencesOfTargets]
  | cons r rest ih => simp [referencesOfTargets, ih]

theorem mem_references_of_member {name : String} {strategy : Strategy} {n : Node} {ns : List Node}
    (hn : n ∈ ns) (h : name ∈ n.references) : name ∈ (Node.group strategy ns).references := by
  rw [references, referencesOfEach_eq_flatMap]
  exact List.mem_flatMap.mpr ⟨n, hn, h⟩

theorem mem_references_of_target {name : String} {first : Bool}
    {r : List PredicateSpec × Node} {rs : List (List PredicateSpec × Node)} (hr : r ∈ rs)
    (h : name ∈ r.2.references) : name ∈ (Node.router rs first).references := by
  rw [references, referencesOfTargets_eq_flatMap]
  exact List.mem_flatMap.mpr ⟨r, hr, h⟩

end Node

theorem distinct_of_no_offence {seen : List String} {index : Nat} {ss : List SinkSpec}
    (none : firstSinkOffence seen index ss = none) :
    (ss.map SinkSpec.name).Nodup ∧ ∀ s ∈ ss, s.name ∉ seen := by
  induction ss generalizing seen index with
  | nil => simp
  | cons s rest ih =>
    simp only [firstSinkOffence] at none
    split at none
    · contradiction
    · split at none
      · contradiction
      · rename_i fresh
        obtain ⟨distinct, others⟩ := ih none
        have later : ∀ t ∈ rest, t.name ≠ s.name ∧ t.name ∉ seen := by
          intro t ht
          simpa using others t ht
        constructor
        · rw [List.map_cons, List.nodup_cons]
          refine ⟨fun again => ?_, distinct⟩
          obtain ⟨t, ht, same⟩ := List.mem_map.mp again
          exact (later t ht).1 same
        · refine List.forall_mem_cons.mpr ⟨?_, fun t ht => (later t ht).2⟩
          simpa using fresh

theorem member_no_offence {names : List String} {a : Address} {i : Nat} {ns : List Node}
    (none : firstMemberOffence names a i ns = none) :
    ∀ n ∈ ns, ∃ b, firstNodeOffence names b n = .none := by
  induction ns generalizing i with
  | nil => simp
  | cons n rest ih =>
    rw [firstMemberOffence, Option.or_eq_none_iff] at none
    exact List.forall_mem_cons.mpr ⟨⟨_, none.1⟩, ih none.2⟩

theorem route_no_offence {names : List String} {a : Address} {i : Nat}
    {rs : List (List PredicateSpec × Node)} (none : firstRouteOffence names a i rs = none) :
    ∀ r ∈ rs, ∃ b, firstNodeOffence names b r.2 = .none := by
  induction rs generalizing i with
  | nil => simp
  | cons r rest ih =>
    obtain ⟨ps, target⟩ := r
    rw [firstRouteOffence, Option.or_eq_none_iff, Option.or_eq_none_iff] at none
    exact List.forall_mem_cons.mpr ⟨⟨_, none.2.1⟩, ih none.2.2⟩

/-- A tree without an offence names declared sinks only. -/
theorem declared_of_no_offence {names : List String} (n : Node) {a : Address}
    (none : firstNodeOffence names a n = none) : ∀ name ∈ n.references, name ∈ names := by
  induction n using Node.induction generalizing a with
  | sink name =>
    rw [firstNodeOffence] at none
    split at none
    · rename_i declared
      intro other h
      obtain rfl := List.mem_singleton.mp h
      simpa using declared
    · contradiction
  | group strategy members ih =>
    rw [firstNodeOffence] at none
    split at none
    · contradiction
    · intro name h
      rw [Node.references, Node.referencesOfEach_eq_flatMap] at h
      obtain ⟨n, hn, h⟩ := List.mem_flatMap.mp h
      obtain ⟨b, hb⟩ := member_no_offence none n hn
      exact ih n hn hb name h
  | router routes first ih =>
    rw [firstNodeOffence] at none
    split at none
    · contradiction
    · intro name h
      rw [Node.references, Node.referencesOfTargets_eq_flatMap] at h
      obtain ⟨r, hr, h⟩ := List.mem_flatMap.mp h
      obtain ⟨b, hb⟩ := route_no_offence none r hr
      exact ih r hr hb name h

namespace Blueprint
variable {b : Blueprint}

theorem no_offence_of_valid (valid : b.validate = .ok ()) :
    firstSinkOffence [] 0 b.sinks = none ∧
      firstNodeOffence (b.sinks.map SinkSpec.name) [] b.root = none := by
  rw [← Option.or_eq_none_iff]
  simp only [validate] at valid
  split at valid
  · contradiction
  · assumption

theorem distinct_of_valid (valid : b.validate = .ok ()) : (b.sinks.map SinkSpec.name).Nodup :=
  (distinct_of_no_offence (no_offence_of_valid valid).1).1

theorem declared_of_valid (valid : b.validate = .ok ()) :
    ∀ name ∈ b.root.references, name ∈ b.sinks.map SinkSpec.name :=
  declared_of_no_offence b.root (no_offence_of_valid valid).2

end Blueprint

end LogTree.Config
