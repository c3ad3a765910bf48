import LogTree.Proofs.Nesting

/-!
Fan-outs over gates that keep state. A gate of custom code may answer otherwise each time it is asked,
and an unflattened group asks its members once more than the flat fan-out does. With gates that keep
no state these are the fan-outs of the library, `gated_eq_nested`; else flattening is noticed.
-/
namespace LogTree
variable {σ : Type}

/-- How a sink is asked for a level when asking may change the state. -/
abbrev Gate (σ : Type) := Context → Level → World σ → Except Payload Bool × World σ

structure Gated (σ : Type) where
  name : String
  gate : Gate σ
  handle : Context → Record → World σ → Outcome × World σ

namespace Gated

def ofBehaviour (b : Behaviour σ) : Gated σ := ⟨b.name, fun c l w => (b.enabled c l, w), b.handle⟩

def askAny (c : Context) (l : Level) :
    List (Gated σ) → World σ → Except Payload Bool × World σ
  | [], w => (.ok false, w)
  | g :: rest, w =>
    match g.gate c l w with
    | (.ok false, v) => askAny c l rest v
    | other => other

/-- Each member is asked when its turn comes. -/
def offerAll (c : Context) (r : Record) :
    List (Gated σ) → World σ → Except Payload (List SinkError) × World σ
  | [], w => (.ok [], w)
  | g :: rest, w =>
    match g.gate c r.level w with
    | (.error p, v) => (.error p, v)
    | (.ok false, v) => offerAll c r rest v
    | (.ok true, v) =>
      match Behaviour.fence g.name (g.handle c r v) with
      | (.ok (), u) => offerAll c r rest u
      | (.error e, u) =>
        match offerAll c r rest (u.note (.memberFailed g.name e.text)) with
        | (.ok es, x) => (.ok (e :: es), x)
        | (.error p, x) => (.error p, x)

def fanout (members : List (Gated σ)) : Gated σ where
  name := "fanout"
  gate c l := askAny c l members
  handle c r w :=
    match offerAll c r members w with
    | (.ok es, v) => (.ofResult (SinkError.join es), v)
    | (.error p, v) => (.panicked p, v)

theorem askAny_ofBehaviour (c : Context) (l : Level) (bs : List (Behaviour σ)) (w : World σ) :
    askAny c l (bs.map ofBehaviour) w = (Behaviour.anyEnabled c l bs, w) := by
  induction bs with
  | nil => rfl
  | cons b rest ih =>
    simp only [List.map_cons, askAny, Behaviour.anyEnabled, ofBehaviour]
    rcases b.enabled c l with p | _ | _
    · rfl
    · exact ih
    · rfl

theorem offerAll_ofBehaviour (c : Context) (r : Record) (bs : List (Behaviour σ)) (w : World σ) :
    offerAll c r (bs.map ofBehaviour) w = Behaviour.offerAll c r bs w := by
  induction bs generalizing w with
  | nil => rfl
  | cons b rest ih =>
    simp only [List.map_cons, offerAll, Behaviour.offerAll, ofBehaviour, ← Behaviour.guarded_eq_fence]
    rcases b.enabled c r.level with p | _ | _
    · rfl
    · exact ih w
    · rcases ran : b.guarded c r w with ⟨e | _, v⟩
      · rcases later : Behaviour.offerAll c r rest (v.note (.memberFailed b.name e.text)) with
          ⟨_ | _, _⟩ <;> simp only [ran, ih, later]
      · simp only [ran, ih]

theorem fanout_ofBehaviour (bs : List (Behaviour σ)) :
    fanout (bs.map ofBehaviour) = ofBehaviour (.fanout bs) := by
  have gate : (fanout (bs.map ofBehaviour)).gate = (ofBehaviour (.fanout bs)).gate := by
    funext c l w
    exact askAny_ofBehaviour c l bs w
  have handle : (fanout (bs.map ofBehaviour)).handle = (ofBehaviour (.fanout bs)).handle := by
    funext c r w
    rcases offered : Behaviour.offerAll c r bs w with ⟨_ | _, _⟩ <;>
      simp only [fanout, ofBehaviour, Behaviour.fanout, offerAll_ofBehaviour, offered]
  exact congr (congrArg (Gated.mk "fanout") gate) handle

end Gated

namespace Nest

mutual

/-- The nesting, unflattened, with a gate in front of each sink at the ends. -/
def gated (gateOf : Sink σ → Gate σ) : Nest σ → Gated σ
  | .sink s => ⟨s.name, gateOf s, s.handle⟩
  | .group ts => .fanout (gatedEach gateOf ts)

def gatedEach (gateOf : Sink σ → Gate σ) : List (Nest σ) → List (Gated σ)
  | [] => []
  | t :: rest => gated gateOf t :: gatedEach gateOf rest

end

theorem gatedEach_eq_map (gateOf : Sink σ → Gate σ) (ts : List (Nest σ)) :
    gatedEach gateOf ts = ts.map (gated gateOf) := by
  induction ts with
  | nil => simp [gatedEach]
  | cons t rest ih => simp [gatedEach, ih]

/-- Gates without state are those of the sinks themselves. -/
theorem gated_eq_nested (t : Nest σ) :
    t.gated (fun s c l w => (s.enabled c l, w)) = .ofBehaviour t.nested := by
  induction t using induction with
  | sink s => rfl
  | group ts ih =>
    rw [gated, gatedEach_eq_map, List.map_congr_left ih, nested, nestedEach_eq_map,
      ← Gated.fanout_ofBehaviour, List.map_map]
    rfl

/-- The gate of the first sink is open once. No gate panics, but the group uses that answer up. -/
theorem flattening_noticed :
    let leaf := fun name : String => Sink.leaf (σ := Nat)
      ⟨name, .empty, .custom (fun _ _ _ => .ok true) fun _ _ _ n => (.fine, n)⟩
    let t : Nest Nat := .group [.group [.sink (leaf "a"), .sink (leaf "b")], .sink (leaf "c")]
    let gateOf : Sink Nat → Gate Nat := fun s _ _ w =>
      if s.name = "a" then (.ok (w.state == 0), { w with state := w.state + 1 }) else (.ok true, w)
    let called := fun g : Gated Nat =>
      (g.handle .background ⟨⟨0, 0⟩, .info, "m", []⟩ (.start 0 fun _ => 0)).2.deliveries.toList.map
        Delivery.sink
    (∀ s ∈ t.leaves, s.fanoutMembers? = none ∧ ∀ c l w, ∃ open? v, gateOf s c l w = (.ok open?, v)) ∧
      t.build = .spread t.leaves ∧
      called (t.flattened.gated gateOf) = ["a", "b", "c"] ∧ called (t.gated gateOf) = ["b", "c"] := by
  intro leaf t gateOf called
  have ends : t.leaves = [leaf "a", leaf "b", leaf "c"] := by rfl
  have apart : ∀ s ∈ t.leaves, s.fanoutMembers? = none := by
    simp [ends, leaf, Sink.fanoutMembers?]
  refine ⟨fun s hs => ⟨apart s hs, fun c l w => ?_⟩, by rfl, by rfl, by rfl⟩
  by_cases first : s.name = "a"
  · exact ⟨_, _, if_pos first⟩
  · exact ⟨_, _, if_neg first⟩

end Nest
end LogTree
