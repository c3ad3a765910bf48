import LogTree.Proofs.Documents
import LogTree.Proofs.Metered
import Mathlib.Data.List.Induction

/-!
Metering the leaves of a registry one after the other. Whatever the order of the visits, each leaf
stands behind one meter of its own in the end, numbered by its visit.
-/
namespace LogTree
variable {σ : Type}

namespace Dict
variable {α : Type}

theorem mem_entries_iff {d : Dict α} {e : String × α} :
    e ∈ d.entries ↔ d.get? e.1 = some e.2 := by
  constructor
  · intro there
    rw [get?, find?_of_distinct d.nodup_keys there]
    rfl
  · intro found
    obtain ⟨x, here, same⟩ := Option.map_eq_some_iff.mp found
    have named : x.1 = e.1 := by simpa using List.find?_some here
    have whole : x = e := Prod.ext named same
    exact whole ▸ List.mem_of_find?_eq_some here

theorem eq_of_get? {d e : Dict α} (same : ∀ key, d.get? key = e.get? key) : d = e := by
  have once : ∀ d : Dict α, d.entries.Nodup := fun d => d.nodup_keys.of_map _
  refine eq_of_perm ((List.perm_ext_iff_of_nodup (once d) (once e)).mpr fun x => ?_)
  rw [mem_entries_iff, mem_entries_iff, same]

end Dict

/-- A registry whose leaves are being metered, and the meters that were handed out. -/
structure Metering (σ : Type) where
  registry : Registry σ
  meters : List (String × MeterId)

namespace Metering

def start (g : Registry σ) : Metering σ := ⟨g, []⟩

def visit (m : Metering σ) (name : String) : Metering σ :=
  match m.registry.get? name with
  | none => m
  | some s =>
    let number := m.meters.length
    ⟨⟨m.registry.sinks.insert name (.metered number s), m.registry.memory⟩,
      m.meters ++ [(name, number)]⟩

def visitAll (g : Registry σ) (names : List String) : Metering σ := names.foldl visit (start g)

/-- The leaves of these names have meters, in this order, and all else is as it was. -/
structure Visited (g : Registry σ) (names : List String) (m : Metering σ) : Prop where
  meters : m.meters = names.map fun name => (name, names.idxOf name)
  memory : m.registry.memory = g.memory
  leaves : ∀ name, m.registry.get? name =
    (g.get? name).map fun s => if name ∈ names then .metered (names.idxOf name) s else s

theorem Visited.visit {g : Registry σ} {names : List String} {m : Metering σ}
    (visited : Visited g names m) {name : String} (new : name ∉ names)
    (there : (g.get? name).isSome = true) : Visited g (names ++ [name]) (m.visit name) := by
  obtain ⟨s, held⟩ := Option.isSome_iff_exists.mp there
  have here : m.registry.get? name = some s := by
    rw [visited.leaves, held, Option.map_some, if_neg new]
  have number : m.meters.length = names.length := by rw [visited.meters, List.length_map]
  have last : (names ++ [name]).idxOf name = names.length := by
    rw [List.idxOf_append, if_neg new, List.idxOf_cons_self, Nat.zero_add]
  have before : ∀ other ∈ names, (names ++ [name]).idxOf other = names.idxOf other := by
    intro other old
    rw [List.idxOf_append, if_pos old]
  simp only [Metering.visit, here, number]
  refine ⟨?_, visited.memory, fun other => ?_⟩
  · rw [visited.meters, List.map_append, List.map_singleton, last]
    exact congrArg (· ++ _) (List.map_congr_left fun other old => by rw [before other old])
  · rw [Registry.get?, Dict.get?_insert]
    by_cases same : name = other
    · subst same
      rw [if_pos rfl, held, Option.map_some, if_pos (by simp), last]
    · rw [if_neg same]
      refine (visited.leaves other).trans (congrArg (Option.map · _) (funext fun s => ?_))
      by_cases old : other ∈ names
      · rw [if_pos old, if_pos (List.mem_append_left _ old), before other old]
      · rw [if_neg old, if_neg (by simp [old, Ne.symm same])]

theorem visited_visitAll {g : Registry σ} {names : List String} (once : names.Nodup)
    (there : ∀ name ∈ names, (g.get? name).isSome = true) : Visited g names (visitAll g names) := by
  induction names using List.reverseRecOn with
  | nil => exact ⟨rfl, rfl, fun name => by simp [visitAll, start]⟩
  | append_singleton names last ih =>
    obtain ⟨held, held_last⟩ := List.forall_mem_append.mp there
    obtain ⟨once, _, apart⟩ := List.nodup_append.mp once
    have new : last ∉ names := fun old => apart last old last List.mem_cons_self rfl
    rw [visitAll, List.foldl_append]
    exact (ih once held).visit new (held_last last List.mem_cons_self)

/-- A visit to all leaves changes nothing but the numbers of the meters with its order. -/
theorem visitAll_eq {g : Registry σ} {names : List String} (every : names.Perm g.names) :
    visitAll g names = ⟨g.mapLeaves fun name s => .metered (names.idxOf name) s,
      names.map fun name => (name, names.idxOf name)⟩ := by
  have once : names.Nodup := every.nodup_iff.mpr g.sinks.nodup_keys
  have there : ∀ name, name ∈ names ↔ (g.get? name).isSome = true := fun name =>
    every.mem_iff.trans Dict.isSome_get?.symm
  obtain ⟨meters, memory, leaves⟩ := visited_visitAll once fun name h => (there name).mp h
  have sinks : (visitAll g names).registry.sinks =
      g.sinks.mapValues fun name s => .metered (names.idxOf name) s := by
    refine Dict.eq_of_get? fun name => ?_
    rw [Dict.get?_mapValues]
    refine (leaves name).trans ?_
    cases held : g.get? name with
    | none => rw [← Registry.get?, held, Option.map_none, Option.map_none]
    | some s =>
      have old : name ∈ names := (there name).mpr (by rw [held]; rfl)
      rw [← Registry.get?, held, Option.map_some, Option.map_some, if_pos old]
  rw [← meters, Registry.mapLeaves, ← sinks, ← memory]

end Metering
end LogTree
