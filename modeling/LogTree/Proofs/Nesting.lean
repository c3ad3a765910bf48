import LogTree.Proofs.Trail
import LogTree.Proofs.Unread
import Mathlib.Data.List.Forall2

/-!
Nested fan-outs. However calls of `fanout` are nested, what comes out is known by the sinks at the ends,
in order, and it stays so when it is derived. Nobody sees the nesting either, unless a sink panics when
it is asked for its level: then the groups decide who is asked. Main statement: `fanout_canonical`.
-/
namespace LogTree
variable {σ : Type}

/-- How calls of `fanout` are nested. -/
inductive Nest (σ : Type) where
  | sink (s : Sink σ)
  | group (members : List (Nest σ))

namespace Nest

@[elab_as_elim]
theorem induction {motive : Nest σ → Prop} (sink : ∀ s, motive (.sink s))
    (group : ∀ ts, (∀ t ∈ ts, motive t) → motive (.group ts)) (t : Nest σ) : motive t := by
  refine @Nest.rec σ motive (fun ts => ∀ t ∈ ts, motive t) sink group ?_ ?_ t
  · exact fun _ ht => absurd ht List.not_mem_nil
  · exact fun _ _ first others => List.forall_mem_cons.mpr ⟨first, others⟩

mutual

def build : Nest σ → Sink σ
  | .sink s => s
  | .group ts => Sink.fanout (buildEach ts)

def buildEach : List (Nest σ) → List (Sink σ)
  | [] => []
  | t :: rest => build t :: buildEach rest

end

mutual

def leaves : Nest σ → List (Sink σ)
  | .sink s => [s]
  | .group ts => leavesEach ts

def leavesEach : List (Nest σ) → List (Sink σ)
  | [] => []
  | t :: rest => leaves t ++ leavesEach rest

end

mutual

/-- What the nesting means if nothing is flattened: every group is a fan-out of its own. -/
def nested : Nest σ → Behaviour σ
  | .sink s => s.behaviour
  | .group ts => .fanout (nestedEach ts)

def nestedEach : List (Nest σ) → List (Behaviour σ)
  | [] => []
  | t :: rest => nested t :: nestedEach rest

end

theorem buildEach_eq_map (ts : List (Nest σ)) : buildEach ts = ts.map build := by
  induction ts with
  | nil => simp [buildEach]
  | cons t rest ih => simp [buildEach, ih]

theorem leavesEach_eq_flatMap (ts : List (Nest σ)) : leavesEach ts = ts.flatMap leaves := by
  induction ts with
  | nil => simp [leavesEach]
  | cons t rest ih => simp [leavesEach, ih]

theorem nestedEach_eq_map (ts : List (Nest σ)) : nestedEach ts = ts.map nested := by
  induction ts with
  | nil => simp [nestedEach]
  | cons t rest ih => simp [nestedEach, ih]

theorem flatten_build {ts : List (Nest σ)} (each : ∀ t ∈ ts, t.build.members = t.leaves) :
    Sink.flatten (buildEach ts) = leavesEach ts := by
  rw [Sink.flatten_eq_flatMap, buildEach_eq_map, leavesEach_eq_flatMap, List.flatMap_map]
  exact List.flatMap_congr each

theorem members_build (t : Nest σ) (apart : ∀ s ∈ t.leaves, s.fanoutMembers? = none) :
    t.build.members = t.leaves := by
  induction t using induction with
  | sink s =>
    rw [leaves] at apart ⊢
    exact Sink.members_of_no_fanout (apart s List.mem_cons_self)
  | group ts ih =>
    have flat : Sink.flatten (buildEach ts) = leavesEach ts := by
      refine flatten_build fun t ht => ih t ht fun s hs => apart s ?_
      rw [leaves, leavesEach_eq_flatMap]
      exact List.mem_flatMap.mpr ⟨t, ht, hs⟩
    rw [leaves] at apart ⊢
    rw [build, Sink.members_fanout (flat ▸ apart), flat]

/-- The nesting is gone: only the sinks at the ends count. -/
theorem build_eq_fanout (t : Nest σ) (apart : ∀ s ∈ t.leaves, s.fanoutMembers? = none) :
    t.build = Sink.fanout t.leaves := by
  have flat : Sink.flatten t.leaves = t.leaves := Sink.flatten_of_no_fanout apart
  cases t with
  | sink s =>
    rw [leaves] at flat ⊢
    exact (Sink.fanout_single flat).symm
  | group ts =>
    have each : ∀ t ∈ ts, t.build.members = t.leaves := by
      refine fun t ht => members_build t fun s hs => apart s ?_
      rw [leaves, leavesEach_eq_flatMap]
      exact List.mem_flatMap.mpr ⟨t, ht, hs⟩
    rw [leaves] at flat ⊢
    exact Sink.fanout_congr ((flatten_build each).trans flat.symm)

theorem nestedEach_sinks (ss : List (Sink σ)) :
    nestedEach (ss.map .sink) = Sink.behaviours ss := by
  rw [nestedEach_eq_map, Sink.behaviours_eq_map, List.map_map]
  rfl

def flattened (t : Nest σ) : Nest σ := .group (t.leaves.map .sink)

theorem nested_flattened (t : Nest σ) : t.flattened.nested = .fanout (Sink.behaviours t.leaves) := by
  rw [flattened, nested, nestedEach_sinks]

section
variable (c : Context) (r : Record)

mutual

/-- The sinks at the ends that are handed the record, in order, each with the world it finds. -/
def calls : Nest σ → World σ → List (Sink σ × World σ)
  | .sink s, w => [(s, w)]
  | .group ts, w => callsEach ts w

def callsEach : List (Nest σ) → World σ → List (Sink σ × World σ)
  | [], _ => []
  | t :: rest, w =>
    if t.nested.takes c r.level then calls t w ++ callsEach rest (t.nested.handed c r w)
    else callsEach rest w

end

end

structure SameCall (x y : Sink σ × World σ) : Prop where
  sink : x.1 = y.1
  world : x.2.view id = y.2.view id

section
open Behaviour
variable {c : Context} {r : Record}

theorem enabled_nested (t : Nest σ) (l : Level) :
    t.nested.enabled c l = anyEnabled c l (Sink.behaviours t.leaves) := by
  induction t using induction with
  | sink s => rw [leaves, nested, Sink.behaviours, Sink.behaviours, anyEnabled_single]
  | group ts ih =>
    rw [leaves, nested]
    change anyEnabled c l (nestedEach ts) = _
    induction ts with
    | nil => rw [nestedEach, leavesEach, Sink.behaviours]
    | cons t rest ihr =>
      obtain ⟨first, others⟩ := List.forall_mem_cons.mp ih
      have both : Sink.behaviours (leavesEach (t :: rest)) =
          Sink.behaviours t.leaves ++ Sink.behaviours (leavesEach rest) := by
        simp only [leavesEach, Sink.behaviours_eq_map, List.map_append]
      rw [nestedEach, anyEnabled, first, ihr others, both]
      refine Eq.trans ?_ (anyEnabled_append l _ _).symm
      rcases anyEnabled c l (Sink.behaviours t.leaves) with _ | _ | _ <;> rfl

theorem answers_nested {t : Nest σ} {l : Level} (calm : ∀ s ∈ t.leaves, s.behaviour.Answers c l) :
    t.nested.Answers c l := by
  intro p
  rw [enabled_nested, Sink.behaviours_eq_map]
  exact anyEnabled_answers (List.forall_mem_map.mpr calm) p

/-- After a member had its turn the others go on from the world that it left. -/
theorem offerAll_later {b : Behaviour σ} {bs : List (Behaviour σ)} {es : List SinkError}
    {w v : World σ} (ran : offerAll c r (b :: bs) w = (.ok es, v)) :
    (b.takes c r.level = false ∧ offerAll c r bs w = (.ok es, v)) ∨
      (b.takes c r.level = true ∧ ∃ fs, offerAll c r bs (b.handed c r w) = (.ok fs, v)) := by
  rw [offerAll] at ran
  rw [takes]
  rcases check : b.enabled c r.level with p | _ | _ <;> rw [check] at ran
  · cases ran
  · exact .inl ⟨rfl, ran⟩
  · refine .inr ⟨rfl, ?_⟩
    rw [handed]
    dsimp only at ran
    generalize b.guarded c r w = answer at ran ⊢
    obtain ⟨e | _, u⟩ := answer
    · dsimp only at ran ⊢
      generalize offerAll c r bs (u.note (.memberFailed b.name e.text)) = later at ran ⊢
      obtain ⟨_ | fs, u'⟩ := later
      · cases ran
      · cases ran
        exact ⟨fs, rfl⟩
    · exact ⟨es, ran⟩

theorem callsEach_append {ts us : List (Nest σ)} {es : List SinkError} {w v : World σ}
    (ran : offerAll c r (nestedEach ts) w = (.ok es, v)) :
    callsEach c r (ts ++ us) w = callsEach c r ts w ++ callsEach c r us v := by
  induction ts generalizing w es with
  | nil =>
    cases ran
    rw [callsEach]
    rfl
  | cons t rest ih =>
    rw [nestedEach] at ran
    rw [List.cons_append, callsEach, callsEach]
    rcases offerAll_later ran with ⟨off, ran⟩ | ⟨on, fs, ran⟩
    · simp only [off, Bool.false_eq_true, if_false]
      exact ih ran
    · simp only [on, if_true, List.append_assoc, ih ran]

theorem callsEach_silent {ts : List (Nest σ)}
    (off : anyEnabled c r.level (nestedEach ts) = .ok false) (w : World σ) :
    callsEach c r ts w = [] := by
  induction ts with
  | nil => rw [callsEach]
  | cons t rest ih =>
    rw [nestedEach, anyEnabled] at off
    split at off
    · rename_i disabled
      rw [callsEach, takes, disabled]
      exact ih off
    · rename_i enabled
      exact absurd off enabled

/-- Two lists of members that fail alike, and whose ends are called alike. -/
structure Together (c : Context) (r : Record) (ts us : List (Nest σ)) : Prop where
  offers : OffersAlike id c r (nestedEach ts) (nestedEach us)
  calls : ∀ w v, w.view id = v.view id →
    List.Forall₂ SameCall (callsEach c r ts w) (callsEach c r us v)

theorem nestedEach_append (ts us : List (Nest σ)) :
    nestedEach (ts ++ us) = nestedEach ts ++ nestedEach us := by
  simp only [nestedEach_eq_map, List.map_append]

theorem Together.append {ts ts' us us' : List (Nest σ)} (first : Together c r ts ts')
    (rest : Together c r us us') : Together c r (ts ++ us) (ts' ++ us') := by
  constructor
  · rw [nestedEach_append, nestedEach_append]
    exact first.offers.append rest.offers
  · intro w v views
    obtain ⟨_, _, w', v', left, right, same⟩ := first.offers w v views
    have views' : w'.view id = v'.view id := congrArg Prod.snd same
    rw [callsEach_append left, callsEach_append right]
    exact List.rel_append (first.calls w v views) (rest.calls w' v' views')

theorem together_nil : Together (σ := σ) c r [] [] := by
  refine ⟨?_, fun w v _ => ?_⟩
  · rw [nestedEach]
    exact offersAlike_nil
  · rw [callsEach, callsEach]
    exact .nil

theorem together_sink {s : Sink σ} (answers : s.behaviour.Answers c r.level) :
    Together c r [.sink s] [.sink s] := by
  constructor
  · exact Sink.offersAlike_single (s.similar_self answers)
  · intro w v views
    simp only [callsEach, calls]
    split
    · exact .cons ⟨rfl, views⟩ .nil
    · exact .nil

/-- A group has one turn as a whole. -/
theorem Together.grouped {ts us : List (Nest σ)} (together : Together c r ts us)
    (answers : (Nest.group us).nested.Answers c r.level) : Together c r ts [.group us] := by
  have nested_group : (Nest.group us).nested = .fanout (nestedEach us) := by rw [nested]
  constructor
  · rw [nested_group] at answers
    rw [nestedEach, nestedEach, nested_group]
    exact together.offers.whole answers fun ran => offerAll_turn ran answers
  · intro w v views
    have calls' := together.calls w v views
    simp only [callsEach, List.append_nil]
    split
    · rw [Nest.calls]
      exact calls'
    · rename_i off
      have enabled := answers.enabled
      rw [Bool.eq_false_iff.mpr off, nested_group] at enabled
      rwa [callsEach_silent enabled] at calls'

theorem together_each {ts : List (Nest σ)}
    (each : ∀ t ∈ ts, Together c r (t.leaves.map .sink) [t]) :
    Together c r ((leavesEach ts).map .sink) ts := by
  induction ts with
  | nil => rw [leavesEach]; exact together_nil
  | cons t rest ih =>
    obtain ⟨first, others⟩ := List.forall_mem_cons.mp each
    rw [leavesEach, List.map_append]
    exact first.append (ih others)

theorem together_leaves (t : Nest σ) (calm : ∀ s ∈ t.leaves, s.behaviour.Answers c r.level) :
    Together c r (t.leaves.map .sink) [t] := by
  have answers : t.nested.Answers c r.level := answers_nested calm
  induction t using induction with
  | sink s =>
    rw [leaves]
    exact together_sink answers
  | group ts ih =>
    have each : ∀ t ∈ ts, ∀ s ∈ t.leaves, s.behaviour.Answers c r.level := by
      refine fun t ht s hs => calm s ?_
      rw [leaves, leavesEach_eq_flatMap]
      exact List.mem_flatMap.mpr ⟨t, ht, hs⟩
    rw [leaves]
    refine Together.grouped (together_each fun t ht => ?_) answers
    exact ih t ht (each t ht) (answers_nested (each t ht))

theorem handle_group {ts : List (Nest σ)} {es : List SinkError} {w v : World σ}
    (ran : offerAll c r (nestedEach ts) w = (.ok es, v)) :
    (Nest.group ts).nested.handle c r w = (.ofResult (SinkError.join es), v) := by
  rw [nested]
  simp only [fanout, ran]

/-- A group of two or more runs like the group of its ends. -/
theorem run_flattened {t : Nest σ} (many : t.leaves.length ≠ 1)
    (calm : ∀ s ∈ t.leaves, s.behaviour.Answers c r.level) (w : World σ) :
    ∃ x y v u, t.flattened.nested.handle c r w = (.ofResult x, v) ∧
      t.nested.handle c r w = (.ofResult y, u) ∧ flat x = flat y ∧ v.view id = u.view id ∧
      List.Forall₂ SameCall (t.flattened.calls c r w) (t.calls c r w) := by
  cases t with
  | sink s => rw [leaves] at many; contradiction
  | group ts =>
    have together : Together c r ((leavesEach ts).map .sink) ts := by
      refine together_each fun t ht => together_leaves t fun s hs => calm s ?_
      rw [leaves, leavesEach_eq_flatMap]
      exact List.mem_flatMap.mpr ⟨t, ht, hs⟩
    obtain ⟨es, fs, v, u, left, right, same⟩ := together.offers w w rfl
    obtain ⟨answers, views⟩ := Prod.mk.inj same
    rw [flattened, leaves, calls, calls]
    exact ⟨_, _, v, u, handle_group left, handle_group right, answers, views,
      together.calls w w rfl⟩

theorem sinks_called (ss : List (Sink σ)) (w : World σ) :
    (callsEach c r (ss.map .sink) w).map Prod.fst =
      ss.filter fun s => s.behaviour.takes c r.level := by
  induction ss generalizing w with
  | nil => rw [List.map_nil, callsEach]; rfl
  | cons s rest ih =>
    rw [List.map_cons, callsEach, nested, List.filter_cons]
    split
    · rw [calls, List.map_append, ih]
      rfl
    · exact ih w

end

/-- However calls of `fanout` are nested over sinks that are no fan-outs themselves, what comes out
is the one sink at the ends, or else a fan-out of those sinks in their order, and it is that fan-out
of the derived sinks however it is derived. With two sinks or more that do not panic when asked for
their level, a run of it calls the same sinks as the nesting would, in the same order and with worlds
that look the same, answers well when the nesting would and reports the same failures. -/
theorem fanout_canonical {t : Nest σ} (apart : ∀ s ∈ t.leaves, s.fanoutMembers? = none) :
    (∀ ds : List Derivation,
      (∀ s ∈ t.leaves, (ds.foldl Sink.derive s).fanoutMembers? = none) ∧
      (∀ s, t.leaves = [s] → ds.foldl Sink.derive t.build = ds.foldl Sink.derive s) ∧
      (t.leaves.length ≠ 1 → ds.foldl Sink.derive t.build =
        .spread (t.leaves.map fun s => ds.foldl Sink.derive s))) ∧
    (2 ≤ t.leaves.length → (∀ s ∈ t.leaves, ∀ c l, s.behaviour.Answers c l) →
      t.build.behaviour = t.flattened.nested ∧
      (∀ c l, t.build.enabled c l = t.nested.enabled c l) ∧
      ∀ c r w, ∃ x y v u, t.build.handle c r w = (.ofResult x, v) ∧
        t.nested.handle c r w = (.ofResult y, u) ∧ flat x = flat y ∧ v.view id = u.view id ∧
        List.Forall₂ SameCall (t.flattened.calls c r w) (t.calls c r w) ∧
        (t.calls c r w).map Prod.fst = t.leaves.filter fun s => s.behaviour.takes c r.level) := by
  have derived : ∀ ds : List Derivation, ds.foldl Sink.derive t.build =
      Sink.fanout (t.leaves.map fun s => ds.foldl Sink.derive s) := by
    intro ds
    rw [build_eq_fanout t apart, Sink.derived_fanout apart]
  have apart' : ∀ (ds : List Derivation), ∀ s ∈ t.leaves,
      (ds.foldl Sink.derive s).fanoutMembers? = none :=
    fun ds s hs => Sink.no_fanout_derived (apart s hs) ds
  have spread : t.leaves.length ≠ 1 → ∀ ds : List Derivation, ds.foldl Sink.derive t.build =
      .spread (t.leaves.map fun s => ds.foldl Sink.derive s) := by
    intro many ds
    have flat := Sink.flatten_of_no_fanout (List.forall_mem_map.mpr (apart' ds))
    rw [derived, Sink.fanout_many, flat]
    rwa [flat, List.length_map]
  constructor
  · refine fun ds => ⟨apart' ds, fun s single => ?_, fun many => spread many ds⟩
    have flat := Sink.flatten_of_no_fanout (List.forall_mem_map.mpr (apart' ds))
    rw [single] at flat
    rw [derived, single]
    exact Sink.fanout_single flat
  · intro two calm
    have many : t.leaves.length ≠ 1 := by omega
    have behaviour : t.build.behaviour = t.flattened.nested := by
      have here := spread many []
      rw [List.foldl_nil] at here
      rw [here, nested_flattened, Sink.behaviour]
      simp
    refine ⟨behaviour, fun c l => ?_, fun c r w => ?_⟩
    · rw [Sink.enabled, behaviour, nested_flattened, enabled_nested]
      rfl
    · obtain ⟨x, y, v, u, left, right, answers, views, alike⟩ :=
        run_flattened many (fun s hs => calm s hs c r.level) w
      rw [← behaviour] at left
      refine ⟨x, y, v, u, left, right, answers, views, alike, ?_⟩
      have sinks : (t.flattened.calls c r w).map Prod.fst = (t.calls c r w).map Prod.fst := by
        rw [← List.forall₂_eq_eq_eq, List.forall₂_map_left_iff, List.forall₂_map_right_iff]
        exact alike.imp fun _ _ same => same.sink
      rw [← sinks, flattened, calls, sinks_called]

/-- One sink panics and one fails, in groups of their own; the group that is empty leaves no trace. -/
theorem fanout_canonical_failing :
    let leaf := fun (name : String) (answer : Outcome) => Sink.leaf (σ := Unit)
      ⟨name, .empty, .custom (fun _ _ _ => .ok true) fun _ _ _ s => (answer, s)⟩
    let a := leaf "a" (.panicked (.text "boom"))
    let b := leaf "b" (.failed (.other "full"))
    let c := leaf "c" .fine
    let t : Nest Unit := .group [.group [.sink a, .group []], .group [.group [.sink b]], .sink c]
    let r : Record := ⟨⟨0, 0⟩, .info, "m", []⟩
    let w : World Unit := .start () fun _ => 0
    t.build.derive (.group "g") =
      .spread [a.derive (.group "g"), b.derive (.group "g"), c.derive (.group "g")] ∧
    ∃ x v, t.build.handle .background r w = (.ofResult x, v) ∧
      flat x = some [.panic "a" "boom", .other "full"] := by
  intro leaf a b c t r w
  have ends : t.leaves = [a, b, c] := by rfl
  have apart : ∀ s ∈ t.leaves, s.fanoutMembers? = none := by
    simp [ends, a, b, c, leaf, Sink.fanoutMembers?]
  have answers : ∀ name answer c l, (leaf name answer).behaviour.Answers c l :=
    fun _ _ _ _ => Behaviour.answers_of_ok rfl
  have calm : ∀ s ∈ t.leaves, ∀ c l, s.behaviour.Answers c l := by
    simp only [ends, List.forall_mem_cons]
    exact ⟨answers _ _, answers _ _, answers _ _, fun _ none => absurd none List.not_mem_nil⟩
  obtain ⟨shape, runs⟩ := fanout_canonical apart
  obtain ⟨_, _, run⟩ := runs (by simp [ends]) calm
  obtain ⟨x, y, v, u, left, right, same, _⟩ := run .background r w
  refine ⟨?_, x, v, left, ?_⟩
  · have derived := (shape [.group "g"]).2.2 (by simp [ends])
    rw [ends] at derived
    exact derived
  · have nested : (t.nested.handle .background r w).1 = .failed (.aggregate
        [.aggregate [.panic "a" "boom"], .aggregate [.aggregate [.other "full"]]]) := by rfl
    rw [right] at nested
    rw [same]
    cases y with
    | ok _ => cases nested
    | error e =>
      cases nested
      simp [flat, SinkError.leaves, SinkError.leavesEach]

end Nest
end LogTree
