import LogTree.SinkError

/-!
The text of a failure and the list of its failures. As long as no aggregate is empty the text is the
list, line by line, however the aggregates are nested, and two failures have the same list exactly when
one is the other with its members grouped in another way. An empty aggregate has a place in the text
and none in the list, so the two need not agree beside it. Main statement: `regrouping_unnoticed`.
-/
namespace LogTree.SinkError

def isAggregate : SinkError → Bool
  | .aggregate _ => true
  | _ => false

mutual

/-- An aggregate without members stands somewhere in the failure. -/
def hasEmpty : SinkError → Bool
  | .aggregate es => es.isEmpty || anyEmpty es
  | _ => false

def anyEmpty : List SinkError → Bool
  | [] => false
  | e :: rest => hasEmpty e || anyEmpty rest

end

theorem anyEmpty_eq_any (es : List SinkError) : anyEmpty es = es.any hasEmpty := by
  induction es with
  | nil => simp [anyEmpty]
  | cons e rest ih => simp [anyEmpty, ih]

theorem hasEmpty_aggregate_iff (es : List SinkError) :
    (aggregate es).hasEmpty = false ↔ es ≠ [] ∧ ∀ e ∈ es, e.hasEmpty = false := by
  rw [hasEmpty, anyEmpty_eq_any, Bool.or_eq_false_iff, List.isEmpty_eq_false_iff, List.any_eq_false]
  simp only [Bool.not_eq_true]

theorem leaves_single {e : SinkError} (single : e.isAggregate = false) : e.leaves = [e] := by
  cases e with
  | aggregate es => cases single
  | write _ _ | panic _ _ | io _ | other _ => rw [leaves]

@[elab_as_elim]
theorem induction {motive : SinkError → Prop} (single : ∀ e, e.isAggregate = false → motive e)
    (aggregate : ∀ es, (∀ e ∈ es, motive e) → motive (.aggregate es)) (e : SinkError) : motive e := by
  refine @SinkError.rec motive (fun es => ∀ e ∈ es, motive e) ?_ ?_ aggregate ?_ ?_ ?_ ?_ e
  · exact fun _ _ => single _ rfl
  · exact fun _ _ => single _ rfl
  · exact fun _ => single _ rfl
  · exact fun _ => single _ rfl
  · exact fun _ he => absurd he List.not_mem_nil
  · exact fun _ _ first others => List.forall_mem_cons.mpr ⟨first, others⟩

theorem single_of_mem_leaves (e : SinkError) : ∀ x ∈ e.leaves, x.isAggregate = false := by
  induction e using induction with
  | single e single =>
    rw [leaves_single single, List.forall_mem_singleton]
    exact single
  | aggregate es ih =>
    intro x hx
    rw [leaves_aggregate] at hx
    obtain ⟨e, he, hx⟩ := List.mem_flatMap.mp hx
    exact ih e he x hx

theorem leaves_ne_nil {e : SinkError} (filled : e.hasEmpty = false) : e.leaves ≠ [] := by
  induction e using induction with
  | single e single =>
    rw [leaves_single single]
    exact List.cons_ne_nil e []
  | aggregate es ih =>
    obtain ⟨some, each⟩ := (hasEmpty_aggregate_iff es).mp filled
    obtain ⟨e, he⟩ := List.exists_mem_of_ne_nil es some
    obtain ⟨x, hx⟩ := List.exists_mem_of_ne_nil e.leaves (ih e he (each e he))
    rw [leaves_aggregate]
    exact List.ne_nil_of_mem (List.mem_flatMap.mpr ⟨e, he, hx⟩)

/-- Blocks of lines, none of them empty, are put together as their lines are. -/
theorem intercalate_flatten (sep : String) {blocks : List (List String)}
    (some : ∀ b ∈ blocks, b ≠ []) :
    sep.intercalate blocks.flatten = sep.intercalate (blocks.map sep.intercalate) := by
  induction blocks with
  | nil => rfl
  | cons b rest ih =>
    obtain ⟨first, others⟩ := List.forall_mem_cons.mp some
    rw [List.flatten_cons, List.map_cons]
    cases rest with
    | nil => rw [List.flatten_nil, List.append_nil, List.map_nil, String.intercalate_singleton]
    | cons c rest =>
      have more : (c :: rest).flatten ≠ [] :=
        List.append_ne_nil_of_left_ne_nil (others c List.mem_cons_self) rest.flatten
      rw [String.intercalate_append_of_ne_nil first more, ih others, List.map_cons,
        String.intercalate_cons_cons]

theorem text_eq_lines {e : SinkError} (filled : e.hasEmpty = false) :
    e.text = "\n".intercalate (e.leaves.map text) := by
  induction e using induction with
  | single e single =>
    rw [leaves_single single, List.map_singleton, String.intercalate_singleton]
  | aggregate es ih =>
    obtain ⟨_, each⟩ := (hasEmpty_aggregate_iff es).mp filled
    have blocks : ∀ b ∈ es.map (fun e => e.leaves.map text), b ≠ [] := by
      intro b hb
      obtain ⟨e, he, rfl⟩ := List.mem_map.mp hb
      exact mt List.map_eq_nil_iff.mp (leaves_ne_nil (each e he))
    calc (aggregate es).text
      _ = "\n".intercalate (es.map text) := text_aggregate es
      _ = "\n".intercalate (es.map fun e => "\n".intercalate (e.leaves.map text)) := by
        rw [List.map_congr_left fun e he => ih e he (each e he)]
      _ = "\n".intercalate (es.map fun e => e.leaves.map text).flatten := by
        rw [intercalate_flatten "\n" blocks, List.map_map]
        rfl
      _ = "\n".intercalate ((aggregate es).leaves.map text) := by
        rw [leaves_aggregate, List.map_flatMap, List.flatMap_def]

/-- The empty aggregate leaves a line behind that nothing in the list accounts for. -/
example : (aggregate [.aggregate [], .other "a"]).text = "\na" ∧
    (aggregate [.aggregate [], .other "a"]).leaves = [.other "a"] := ⟨by decide, rfl⟩

/-- The same failures in another grouping. At any depth a failure becomes an aggregate of one,
neighbours in an aggregate become an aggregate of their own, and what was grouped so comes apart again. -/
inductive Regrouped : SinkError → SinkError → Prop where
  | refl (e : SinkError) : Regrouped e e
  | symm {e f : SinkError} : Regrouped e f → Regrouped f e
  | trans {e f g : SinkError} : Regrouped e f → Regrouped f g → Regrouped e g
  | single (e : SinkError) : Regrouped e (.aggregate [e])
  | group (before after : List SinkError) {members : List SinkError} : members ≠ [] →
    Regrouped (.aggregate (before ++ members ++ after))
      (.aggregate (before ++ .aggregate members :: after))
  | inside (before after : List SinkError) {e f : SinkError} : Regrouped e f →
    Regrouped (.aggregate (before ++ e :: after)) (.aggregate (before ++ f :: after))

namespace Regrouped

theorem leaves {e f : SinkError} (regrouped : Regrouped e f) : e.leaves = f.leaves := by
  induction regrouped with
  | refl e => rfl
  | symm _ ih => exact ih.symm
  | trans _ _ ih ih' => exact ih.trans ih'
  | single e => rw [leaves_aggregate, List.flatMap_singleton]
  | group before after _ =>
    simp only [leaves_aggregate, List.flatMap_append, List.flatMap_cons, List.append_assoc]
  | inside before after _ ih =>
    simp only [leaves_aggregate, List.flatMap_append, List.flatMap_cons, ih]

theorem hasEmpty_iff {e f : SinkError} (regrouped : Regrouped e f) :
    e.hasEmpty = false ↔ f.hasEmpty = false := by
  induction regrouped with
  | refl e => rfl
  | symm _ ih => exact ih.symm
  | trans _ _ ih ih' => exact ih.trans ih'
  | single e => simp [hasEmpty_aggregate_iff]
  | group before after some =>
    simp [hasEmpty_aggregate_iff, some, or_imp, forall_and]
  | inside before after _ ih =>
    simp [hasEmpty_aggregate_iff, ih, or_imp, forall_and]

/-- Members that are regroupings of their leaves give way to them one after the other; those in `before`
have already done so. -/
theorem spread (before : List SinkError) {es : List SinkError} (some : ∀ e ∈ es, e.leaves ≠ [])
    (each : ∀ e ∈ es, Regrouped e (.aggregate e.leaves)) :
    Regrouped (.aggregate (before ++ es)) (.aggregate (before ++ es.flatMap SinkError.leaves)) := by
  induction es generalizing before with
  | nil => exact .refl _
  | cons e rest ih =>
    obtain ⟨someFirst, someOthers⟩ := List.forall_mem_cons.mp some
    obtain ⟨first, others⟩ := List.forall_mem_cons.mp each
    have inner := Regrouped.inside before rest first
    have apart := Regrouped.group before rest someFirst
    have later := ih (before ++ e.leaves) someOthers others
    rw [List.flatMap_cons, ← List.append_assoc]
    exact inner.trans (apart.symm.trans later)

end Regrouped

theorem regrouped_leaves {e : SinkError} (filled : e.hasEmpty = false) :
    Regrouped e (.aggregate e.leaves) := by
  induction e using induction with
  | single e single =>
    rw [leaves_single single]
    exact .single e
  | aggregate es ih =>
    obtain ⟨_, each⟩ := (hasEmpty_aggregate_iff es).mp filled
    rw [leaves_aggregate]
    exact Regrouped.spread [] (fun e he => leaves_ne_nil (each e he)) fun e he => ih e he (each e he)

theorem regrouped_iff {e : SinkError} (filled : e.hasEmpty = false) (f : SinkError) :
    Regrouped e f ↔ f.hasEmpty = false ∧ f.leaves = e.leaves := by
  constructor
  · intro regrouped
    exact ⟨regrouped.hasEmpty_iff.mp filled, regrouped.leaves.symm⟩
  · rintro ⟨filled', same⟩
    have back := (regrouped_leaves filled').symm
    rw [same] at back
    exact (regrouped_leaves filled).trans back

/-- Without empty aggregates the text of a failure is its list, line by line; the list is not empty and
no aggregate is in it. To join no failures is fine, and to join some gives a failure whose list is all
their lists, one after the other. The failures with one and the same list are the regroupings of each
other, and they have one text. -/
theorem regrouping_unnoticed :
    (∀ e : SinkError, e.hasEmpty = false →
      e.text = "\n".intercalate (e.leaves.map text) ∧
      (∀ x ∈ e.leaves, x.isAggregate = false) ∧ e.leaves ≠ []) ∧
    (∀ es : List SinkError, (∀ e ∈ es, e.hasEmpty = false) →
      (join es = .ok () ↔ es = []) ∧
      (es ≠ [] → ∃ e, join es = .error e ∧ e.hasEmpty = false ∧ e.leaves = es.flatMap leaves)) ∧
    ∀ e f : SinkError, e.hasEmpty = false →
      (Regrouped e f ↔ f.hasEmpty = false ∧ f.leaves = e.leaves) ∧
      (Regrouped e f → f.text = e.text) := by
  refine ⟨?_, ?_, ?_⟩
  · intro e filled
    exact ⟨text_eq_lines filled, single_of_mem_leaves e, leaves_ne_nil filled⟩
  · intro es each
    refine ⟨join_eq_ok_iff es, fun some => ?_⟩
    have filled := (hasEmpty_aggregate_iff es).mpr ⟨some, each⟩
    exact ⟨.aggregate es, join_of_ne_nil some, filled, leaves_aggregate es⟩
  · intro e f filled
    refine ⟨regrouped_iff filled f, fun regrouped => ?_⟩
    obtain ⟨filled', same⟩ := (regrouped_iff filled f).mp regrouped
    rw [text_eq_lines filled', text_eq_lines filled, same]

/-- Two failures are nested in aggregates of their own, one in an aggregate of one. -/
theorem regrouping_unnoticed_nested :
    let full : SinkError := .write "a" "disk full"
    let bounds : SinkError := .panic "b" "index out of bounds"
    let closed : SinkError := .io "closed"
    let es : List SinkError := [full, .aggregate [.aggregate [bounds], closed]]
    let flat : SinkError := .aggregate [full, bounds, closed]
    (∀ e ∈ es, e.hasEmpty = false) ∧ flat.hasEmpty = false ∧ Regrouped flat (.aggregate es) ∧
      (∃ e, join es = .error e ∧ e.hasEmpty = false ∧ e.leaves = [full, bounds, closed]) ∧
      (aggregate es).text = flat.text ∧
      flat.text = "sink 'a' write error: disk full\nsink 'b' panicked: index out of bounds\n" ++
        "io error: closed" := by
  intro full bounds closed es flat
  obtain ⟨single, joined, regroup⟩ := regrouping_unnoticed
  have each : ∀ e ∈ es, e.hasEmpty = false := by decide
  have filled : flat.hasEmpty = false := by decide
  obtain ⟨same, text⟩ := regroup flat (.aggregate es) filled
  have regrouped : Regrouped flat (.aggregate es) := same.mpr ⟨by decide, rfl⟩
  refine ⟨each, filled, regrouped, (joined es each).2 (List.cons_ne_nil _ _), text regrouped, ?_⟩
  rw [(single flat filled).1]
  decide

end LogTree.SinkError
