import LogTree.Proofs.Codec
import LogTree.Proofs.Exactness
import LogTree.Proofs.Metering

/-!
The report of an emission is exact. Every round is one and the same call on a metered tree, so the
counters, the captured records and their texts follow from where the configuration sends that call.
Main statement: `emit_exact`.
-/
namespace LogTree
open Config

/-! Without a pool -/

namespace Config

/-- The starts that are to come make no difference, and they stay. -/
def Reach.Fixed (reach : Reach) : Prop := ∃ names, ∀ starts, reach starts = (names, starts)

namespace Reach

theorem fixed_nowhere : nowhere.Fixed := ⟨[], fun _ => rfl⟩

theorem fixed_all {reaches : List Reach} (each : ∀ r ∈ reaches, r.Fixed) : (all reaches).Fixed := by
  induction reaches with
  | nil => exact fixed_nowhere
  | cons first rest ih =>
    obtain ⟨⟨names, same⟩, others⟩ := List.forall_mem_cons.mp each
    obtain ⟨more, same'⟩ := ih others
    refine ⟨names ++ more, fun starts => ?_⟩
    simp only [all, same, same']

theorem fixed_firstOf {offers : List (Bool × Reach)} (each : ∀ x ∈ offers, x.2.Fixed) :
    (firstOf offers).Fixed := by
  rw [firstOf]
  cases found : offers.find? Prod.fst with
  | none => exact fixed_nowhere
  | some x => exact each x (List.mem_of_find?_eq_some found)

end Reach

namespace Node

theorem fixed_reach (least? : String → Option Level) (v : Record) (n : Node)
    (free : n.hasPool = false) : (n.reach least? v).Fixed := by
  induction n using induction with
  | sink name =>
    rw [reach]
    split
    · exact ⟨[name], fun _ => rfl⟩
    · exact Reach.fixed_nowhere
  | group strategy members ih =>
    rw [hasPool, Bool.or_eq_false_iff, anyPool_eq_any, List.any_eq_false] at free
    obtain ⟨other, free⟩ := free
    have each : ∀ x ∈ offers least? v members, x.2.Fixed := by
      rw [offers_eq_map]
      intro x hx
      obtain ⟨n, hn, rfl⟩ := List.mem_map.mp hx
      exact ih n hn (by simpa using free n hn)
    cases strategy with
    | fanout =>
      rw [reach]
      exact Reach.fixed_all (List.forall_mem_map.mpr each)
    | failover =>
      rw [reach]
      exact Reach.fixed_firstOf each
    | pool => contradiction
  | router routes first ih =>
    rw [hasPool, anyPoolTarget_eq_any, List.any_eq_false] at free
    have each : ∀ x ∈ matching least? v routes, x.Fixed := by
      rw [matching_eq_map]
      intro x hx
      obtain ⟨r, hr, rfl⟩ := List.mem_map.mp hx
      have there := (List.mem_filter.mp hr).1
      exact ih r there (by simpa using free r there)
    cases first with
    | true =>
      rw [reach]
      cases found : (matching least? v routes).head? with
      | none => exact Reach.fixed_nowhere
      | some x => exact each x (List.mem_of_mem_head? found)
    | false =>
      rw [reach]
      exact Reach.fixed_all each

end Node
end Config

namespace CommandLine

/-! What parsing yields -/

theorem key_of_splitPair {s : String} {p : String × String} (split : splitPair s = .ok p) :
    p.1 ≠ "" := by
  simp only [splitPair] at split
  split at split
  · rename_i c cs _ _ key _
    obtain rfl := Except.ok.inj split
    intro empty
    have chars : s.toList.takeWhile (· != '=') = [] := by simpa using congrArg String.toList empty
    rw [key] at chars
    contradiction
  · contradiction

theorem keys_of_pairs {m : Matches} {name : String} : ∀ p ∈ pairs m name, p.1 ≠ "" := by
  intro p hp
  obtain ⟨s, _, found⟩ := List.mem_filterMap.mp hp
  cases split : splitPair s with
  | error e =>
    rw [split] at found
    contradiction
  | ok q =>
    rw [split] at found
    obtain rfl : q = p := Option.some.inj found
    exact key_of_splitPair split

def AsksFor (environment : String → Option String) (args : List String) (o : EmitOptions) : Prop :=
  ∃ i, parse environment args = .ok i ∧ i.command = .emit o ∧ o.metricsPort = 0

theorem emitOf_of_commandOf {name : String} {m : Matches} {o : EmitOptions}
    (command : commandOf name m = .ok (.emit o)) : o = emitOf m := by
  unfold commandOf at command
  obtain ⟨_, _, command⟩ := ok_of_bind command
  split at command
  · cases command
  · cases command
  · split at command
    · exact (Command.emit.inj (Except.ok.inj command)).symm
    · cases command

theorem emitOf_of_parse {environment : String → Option String} {args : List String}
    {i : Invocation} (parsed : parse environment args = .ok i) {o : EmitOptions}
    (emits : i.command = .emit o) : ∃ m, o = emitOf m := by
  unfold parse at parsed
  obtain ⟨⟨program, rest⟩, _, parsed⟩ := ok_of_bind parsed
  dsimp only at parsed
  split at parsed
  · obtain ⟨_, _, parsed⟩ := ok_of_bind parsed
    split at parsed <;> cases parsed
  · cases parsed
  · obtain ⟨_, _, parsed⟩ := ok_of_bind parsed
    obtain ⟨m, _, parsed⟩ := ok_of_bind parsed
    obtain ⟨c, command, parsed⟩ := ok_of_bind parsed
    obtain ⟨_, _, parsed⟩ := ok_of_bind parsed
    obtain ⟨_, _, parsed⟩ := ok_of_bind parsed
    obtain rfl := Except.ok.inj parsed
    obtain rfl : c = .emit o := emits
    exact ⟨m, emitOf_of_commandOf command⟩

/-! The rounds -/

def allDelivered (time : Nat → Float) : Nat → Delivery.Summary Float → Delivery.Summary Float
  | 0, s => s
  | n + 1, s => allDelivered time n (s.update true (time n))

theorem totals_allDelivered (time : Nat → Float) (n : Nat) (s : Delivery.Summary Float) :
    (allDelivered time n s).total = s.total + n ∧ (allDelivered time n s).failed = s.failed ∧
      (allDelivered time n s).counters = s.counters := by
  induction n generalizing s with
  | zero => exact ⟨rfl, rfl, rfl⟩
  | succ n ih =>
    obtain ⟨total, others⟩ := ih (s.update true (time n))
    refine ⟨?_, others⟩
    rw [allDelivered, total]
    simp only [Delivery.Summary.update]
    omega

section
variable {b : Blueprint} {leafAt : String → Leaf Unit} {number : String → MeterId} {q : Call}
  {m : Emitter} {now : Instant}

/-- Rounds of one and the same call deliver what the configuration says of it again and again. -/
theorem Tally.run_metered (time : Nat → Float)
    (rounds : ∀ w, ∃ v, m.round now w = (.fine, v) ∧
      w.Follows (deliveryTo leafAt q.scope q.record) (b.reach q.view) v ∧ w.InStep number v)
    (n : Nat) (t : Tally) :
    ∃ v, Tally.run m now time n t = ⟨v, allDelivered time n t.summary, t.errors⟩ ∧
      v.deliveries.toList = t.world.deliveries.toList ++
        (b.interpret (List.replicate n q) t.world.starts).map
          (fun e => deliveryTo leafAt q.scope q.record e.1) ∧
      t.world.InStep number v := by
  induction n generalizing t with
  | zero =>
    refine ⟨t.world, rfl, ?_, World.inStep_of_eq rfl rfl⟩
    simp [Blueprint.interpret]
  | succ n ih =>
    obtain ⟨v, fine, follows, step⟩ := rounds t.world
    obtain ⟨u, run, made, steps⟩ := ih (t.add (.fine, v) (time n))
    refine ⟨u, ?_, ?_, step.trans steps⟩
    · rw [Tally.run, fine]
      exact run
    · rw [made]
      simp only [Tally.add, follows.deliveries, follows.starts, List.replicate_succ,
        Blueprint.interpret, List.map_append, List.map_map, List.append_assoc]
      rfl

end

theorem interpret_replicate {b : Blueprint} {q : Call} {n : Nat} {starts : Starts} :
    ∀ e ∈ b.interpret (List.replicate n q) starts, e.2 = q.view := by
  induction n generalizing starts with
  | zero => simp [Blueprint.interpret]
  | succ n ih =>
    rw [List.replicate_succ, Blueprint.interpret]
    refine List.forall_mem_append.mpr ⟨fun e he => ?_, ih⟩
    obtain ⟨name, _, rfl⟩ := List.mem_map.mp he
    rfl

/-! What the report reads off the world -/

theorem length_recordsOf (name : String) (entries : List (String × Record)) :
    (recordsOf name entries).length = entries.countP fun e => e.1 = name := by
  rw [recordsOf, List.length_filterMap_eq_countP]
  refine List.countP_congr fun e _ => ?_
  by_cases same : e.1 = name <;> simp [same]

theorem counters_of_ticks {w : World Unit} {visited : List String}
    {entries : List (String × Record)}
    (ticks : w.ticks.toList = entries.map fun e => (visited.idxOf e.1, .handled))
    {name : String} (there : name ∈ visited) :
    w.counters (visited.idxOf name) = ⟨(recordsOf name entries).length.toUInt64, 0, 0⟩ := by
  have counts : ∀ t : Tick, w.count (visited.idxOf name) t =
      (entries.countP fun e => e.1 = name ∧ t = .handled).toUInt64 := by
    intro t
    rw [World.count, ticks, List.countP_map]
    refine congrArg Nat.toUInt64 (List.countP_congr fun e _ => ?_)
    have same : visited.idxOf e.1 = visited.idxOf name ↔ e.1 = name := by
      rw [eq_comm, List.idxOf_inj there, eq_comm]
    have kind : Tick.handled = t ↔ t = .handled := eq_comm
    simp only [Function.comp_apply, decide_eq_true_eq, Prod.mk.injEq, same, kind]
  rw [World.counters, counts, counts, counts, length_recordsOf]
  simp

theorem buffer_of_deliveries {w : World Unit} {leafAt : String → Leaf Unit} {q : Call}
    {entries : List (String × Record)} (views : ∀ e ∈ entries, e.2 = q.view)
    (deliveries : w.deliveries.toList =
      entries.map fun e => deliveryTo leafAt q.scope q.record e.1)
    {i : BufferId} {name : String} (own : ∀ other, (leafAt other).buffer? = some i ↔ other = name) :
    w.buffer i = recordsOf name entries := by
  rw [World.buffer, deliveries, List.filterMap_map, recordsOf]
  refine List.filterMap_congr fun e he => ?_
  simp only [Function.comp_apply, deliveryTo, own, views e he, q.view_eq]

/-! Any order of the visits to the leaves -/

def SinkReport.read (g : Registry Unit) (w : World Unit) (name : String) (i : MeterId) :
    SinkReport :=
  ⟨name, w.counters i, (g.memory? name).map fun h => w.buffer h.buffer⟩

def EmitReport.ofSinks (o : EmitOptions) (summary : Delivery.Summary Float) (errors : List String)
    (sinks : List SinkReport) : EmitReport :=
  ⟨o.level, o.message, sinks.foldl (fun s r => s.setCounters r.name r.counters) summary, errors,
    sinks⟩

/-- Emission with the leaves metered in an order from outside; the report sorts them by name. -/
def emitIn (visited : List String) (files : Files) (draws : Nat → Nat) (now : Instant)
    (time : Nat → Float) (o : EmitOptions) : Answer :=
  match load files o.config with
  | .error chain => ⟨"", chain⟩
  | .ok b =>
    match Registry.ofBlueprint 0 b (.start () draws) with
    | (.error e, _) => ⟨"", "Failed to create sinks" :: e.chain⟩
    | (.ok g, w) =>
      let m := Metering.visitAll g visited
      match m.registry.build b w with
      | (.error e, _) => ⟨"", "Failed to build topology" :: e.chain⟩
      | (.ok root, w) =>
        let t := Tally.run ⟨o, m.registry, Emitter.derive (.new root) o⟩ now time o.rounds (.start w)
        let sinks := (Dict.ofList m.meters).entries.map fun e =>
          SinkReport.read m.registry t.world e.1 e.2
        (EmitReport.ofSinks o t.summary t.errors.keys sinks).answer o.json

theorem valid_of_loaded {files : Files} {path : String} {b : Blueprint}
    (loaded : load files path = .ok b) : b.validate = .ok () := by
  unfold load at loaded
  split at loaded
  · split at loaded
    · rename_i found
      obtain rfl := Except.ok.inj loaded
      obtain ⟨f, _, read⟩ := ok_of_bind found
      split at read
      · cases read
      · exact Codec.valid_of_load ((Codec.load_codec f _).trans read)
    · cases loaded
  · cases loaded

theorem zipIdx_eq_map_idxOf {xs : List String} (once : xs.Nodup) :
    xs.zipIdx = xs.map fun x => (x, xs.idxOf x) := by
  refine List.ext_getElem (by simp) fun i h h' => ?_
  simp [once.idxOf_getElem]

theorem sorted_meters {g : Registry Unit} {visited : List String} (every : visited.Perm g.names) :
    (Dict.ofList (visited.map fun name => (name, visited.idxOf name))).entries =
      g.names.map fun name => (name, visited.idxOf name) := by
  let meters : Dict MeterId :=
    ⟨g.names.map fun name => (name, visited.idxOf name), List.pairwise_map.mpr g.sorted_names⟩
  have same : Dict.ofList (visited.map fun name => (name, visited.idxOf name)) = meters :=
    Dict.ofList_of_perm (every.map _)
  rw [same]

theorem ofTally_eq (m : Emitter) (t : Tally) :
    EmitReport.ofTally m t = .ofSinks m.options t.summary t.errors.keys
      (m.registry.names.map fun name =>
        SinkReport.read m.registry t.world name (m.registry.names.idxOf name)) := by
  have once : m.registry.names.Nodup := m.registry.sinks.nodup_keys
  rw [EmitReport.ofTally, zipIdx_eq_map_idxOf once, List.map_map]
  rfl

/-- The report that the configuration leads to, once it is known who gets which record. -/
def SinkReport.expected (g : Registry Unit) (entries : List (String × Record)) (name : String) :
    SinkReport :=
  ⟨name, ⟨(recordsOf name entries).length.toUInt64, 0, 0⟩,
    (g.memory? name).map fun _ => recordsOf name entries⟩

def EmitReport.expected (g : Registry Unit) (o : EmitOptions) (summary : Delivery.Summary Float)
    (entries : List (String × Record)) : EmitReport :=
  .ofSinks o summary [] (g.names.map (SinkReport.expected g entries))

section
variable {b : Blueprint} {g : Registry Unit} {w : World Unit} {draws : Nat → Nat} {now : Instant}
  {time : Nat → Float} {o : EmitOptions}

theorem sinks_read (valid : b.validate = .ok ()) (made : g.Made 0 b) {visited : List String}
    (every : visited.Perm g.names) {entries : List (String × Record)} {q : Call}
    (views : ∀ e ∈ entries, e.2 = q.view)
    (deliveries : w.deliveries.toList =
      entries.map fun e => deliveryTo (σ := Unit) (Registry.leafAt 0 b.sinks) q.scope q.record e.1)
    (ticks : w.ticks.toList = entries.map fun e => (visited.idxOf e.1, .handled)) :
    (g.names.map fun name => SinkReport.read g w name (visited.idxOf name)) =
      g.names.map (SinkReport.expected g entries) := by
  refine List.map_congr_left fun name h => ?_
  rw [SinkReport.read, SinkReport.expected, counters_of_ticks ticks (every.mem_iff.mpr h)]
  obtain ⟨s, hs, rfl⟩ := List.mem_map.mp (made.names.mem_iff.mp h)
  cases kind : s.sinkType with
  | log => rw [made.memory s hs kind, Option.map_none, Option.map_none]
  | memory =>
    obtain ⟨i, hi⟩ := exists_number 0 hs
    have own := Registry.buffer_leafAt (σ := Unit) (Blueprint.distinct_of_valid valid) hi kind
    rw [(made.holds _ hi).2 kind, Option.map_some, Option.map_some,
      buffer_of_deliveries views deliveries own]

theorem round_eq (root : Sink Unit) (w : World Unit) :
    Emitter.round ⟨o, g, Emitter.derive (.new root) o⟩ now w = (o.call now).log root w := by
  rw [Emitter.round, Emitter.derive, Call.log, Call.logger, EmitOptions.call, List.foldl_cons,
    List.foldl_map]
  rfl

/-- Whatever the numbers of the meters, the rounds on a valid configuration lead to one report. -/
theorem report_of_made (o : EmitOptions) (now : Instant) (time : Nat → Float)
    (valid : b.validate = .ok ())
    (made : Registry.ofBlueprint 0 b (.start () draws) = (.ok g, w)) {visited : List String}
    (every : visited.Perm g.names) :
    ∃ root v, (g.mapLeaves fun name s => .metered (visited.idxOf name) s).build b w =
      (.ok root, v) ∧
      let m : Emitter := ⟨o, g.mapLeaves fun name s => .metered (visited.idxOf name) s,
        Emitter.derive (.new root) o⟩
      let t := Tally.run m now time o.rounds (.start v)
      EmitReport.ofSinks o t.summary t.errors.keys
          (g.names.map fun name => SinkReport.read g t.world name (visited.idxOf name)) =
        .expected g o (allDelivered time o.rounds .empty)
          (b.interpret (List.replicate o.rounds (o.call now))
            (World.start () draws : World Unit).starts) := by
  obtain ⟨g', w', v, made', registry, built, adds, step⟩ :=
    Blueprint.built_metered valid visited.idxOf 0 (World.start () draws)
  obtain ⟨same, rfl⟩ := Prod.mk.inj (made.symm.trans made')
  obtain rfl := Except.ok.inj same
  let leafAt : String → Leaf Unit := Registry.leafAt 0 b.sinks
  have plain : ∀ name ∈ b.root.references, (leafAt name).Plain (b.least? name) :=
    Blueprint.plain_of_valid valid 0
  have named : ∀ name, (leafAt name).name = name := Registry.name_leafAt 0 b.sinks
  let m : Emitter := ⟨o, g.mapLeaves fun name s => .metered (visited.idxOf name) s,
    Emitter.derive (.new (b.treeOver (meteredAt visited.idxOf leafAt))) o⟩
  have fine : ∀ w, ∃ u, m.round now w = (.fine, u) ∧
      w.Follows (deliveryTo leafAt (o.call now).scope (o.call now).record)
        (b.reach (o.call now).view) u ∧ w.InStep visited.idxOf u := by
    intro w
    rw [round_eq]
    exact Call.log_metered visited.idxOf plain (fun name _ => named name) (o.call now) w
  obtain ⟨u, run, deliveries, counted⟩ := Tally.run_metered time fine o.rounds (.start v)
  let entries := b.interpret (List.replicate o.rounds (o.call now))
    (World.start () draws : World Unit).starts
  have views : ∀ e ∈ entries, e.2 = (o.call now).view := interpret_replicate
  have all : u.deliveries.toList = entries.map fun e =>
      deliveryTo leafAt (o.call now).scope (o.call now).record e.1 := by
    rw [deliveries]
    simp only [Tally.start, adds.deliveries, adds.starts]
    rfl
  have ticks : u.ticks.toList = entries.map fun e => (visited.idxOf e.1, .handled) := by
    rw [(step.trans counted).ticks all, List.map_map]
    exact List.map_congr_left fun e _ => by
      simp only [Function.comp_apply, deliveryTo, named]
  refine ⟨_, v, built, ?_⟩
  show EmitReport.ofSinks o (Tally.run m now time o.rounds (.start v)).summary _ _ = _
  rw [run, EmitReport.expected, ← sinks_read valid registry every views all ticks]
  rfl

end

section
variable {b : Blueprint} {g : Registry Unit} {o : EmitOptions} {now : Instant}

theorem length_recordsOf_replicate {q : Call} {names : List String}
    (fixed : ∀ starts, b.reach q.view starts = (names, starts)) (name : String) (n : Nat)
    (starts : Starts) :
    (recordsOf name (b.interpret (List.replicate n q) starts)).length = n * names.count name := by
  induction n with
  | zero => simp [Blueprint.interpret, recordsOf]
  | succ n ih =>
    have once : (recordsOf name (names.map (·, q.view))).length = names.count name := by
      rw [length_recordsOf, List.countP_map, List.count_eq_countP]
      refine List.countP_congr fun other _ => ?_
      simp
    rw [List.replicate_succ, Blueprint.interpret, fixed, recordsOf_append, List.length_append, once,
      ih, Nat.succ_mul, Nat.add_comm]

theorem counters_ofSinks (summary : Delivery.Summary Float) (none_yet : summary.counters = .empty)
    (errors : List String) {sinks : List SinkReport}
    (sorted : (sinks.map SinkReport.name).Pairwise (· < ·)) :
    (EmitReport.ofSinks o summary errors sinks).summary.counters.entries =
      sinks.map fun s => (s.name, s.counters) := by
  have set : ∀ (sinks : List SinkReport) (summary : Delivery.Summary Float),
      (sinks.foldl (fun s r => s.setCounters r.name r.counters) summary).counters =
        (sinks.map fun s => (s.name, s.counters)).foldl (fun d e => d.insert e.1 e.2)
          summary.counters := by
    intro sinks
    induction sinks with
    | nil => intro summary; rfl
    | cons s rest ih => intro summary; exact ih (summary.setCounters s.name s.counters)
  let counters : Dict Counters :=
    ⟨sinks.map fun s => (s.name, s.counters), List.pairwise_map.mpr (List.pairwise_map.mp sorted)⟩
  have same : Dict.ofList (sinks.map fun s => (s.name, s.counters)) = counters :=
    Dict.ofList_of_perm (.refl _)
  rw [EmitReport.ofSinks, set, none_yet]
  exact congrArg Dict.entries same

theorem totals_ofSinks (summary : Delivery.Summary Float) (errors : List String)
    (sinks : List SinkReport) :
    (EmitReport.ofSinks o summary errors sinks).summary.total = summary.total ∧
      (EmitReport.ofSinks o summary errors sinks).summary.failed = summary.failed := by
  rw [EmitReport.ofSinks]
  induction sinks generalizing summary with
  | nil => exact ⟨rfl, rfl⟩
  | cons s rest ih => exact ih (summary.setCounters s.name s.counters)

theorem mem_recordsOf {name : String} {entries : List (String × Record)} {v : Record}
    (views : ∀ e ∈ entries, e.2 = v) {r : Record} (h : r ∈ recordsOf name entries) : r = v := by
  obtain ⟨e, he, found⟩ := List.mem_filterMap.mp h
  split at found
  · rw [← Option.some.inj found, views e he]
  · contradiction

theorem SinkReport.exact_expected (made : g.Made 0 b)
    (keyed : ∀ p ∈ o.attrs, p.1 ≠ "") (starts : Starts) {name : String} (there : name ∈ g.names) :
    (expected g (b.interpret (List.replicate o.rounds (o.call now)) starts) name).Exact b o now := by
  generalize known : b.interpret (List.replicate o.rounds (o.call now)) starts = entries
  have views : ∀ e ∈ entries, e.2 = (o.call now).view := known ▸ interpret_replicate
  have handled : (expected g entries name).counters.handled.toNat =
      (recordsOf name entries).length % UInt64.size := UInt64.toNat_ofNat'
  obtain ⟨spec, declared, named⟩ := List.mem_map.mp (made.names.mem_iff.mp there)
  refine ⟨rfl, rfl, ?_, fun rs shown => ?_, fun free starts => ?_, fun free starts rs shown => ?_⟩
  · rw [expected, Option.isSome_map]
    constructor
    · intro held
      cases kind : spec.sinkType with
      | log =>
        rw [← named, made.memory spec declared kind] at held
        contradiction
      | memory => exact ⟨spec, declared, named, kind⟩
    · rintro ⟨other, declared', named', kind⟩
      obtain ⟨i, hi⟩ := exists_number 0 declared'
      have held := (made.holds _ hi).2 kind
      rw [named'] at held
      rw [held]
      rfl
  · obtain ⟨_, _, rfl⟩ := Option.map_eq_some_iff.mp shown
    refine ⟨handled, fun r hr => ?_⟩
    obtain rfl := mem_recordsOf views hr
    exact ⟨rfl, rfl, o.texts_view keyed now⟩
  · obtain ⟨names, fixed⟩ := b.root.fixed_reach b.least? (o.call now).view free
    rw [handled, ← known, length_recordsOf_replicate fixed, Blueprint.reach, fixed]
    rfl
  · obtain ⟨names, fixed⟩ := b.root.fixed_reach b.least? (o.call now).view free
    obtain ⟨_, _, rfl⟩ := Option.map_eq_some_iff.mp shown
    rw [← known, length_recordsOf_replicate fixed, Blueprint.reach, fixed]
    rfl

theorem EmitReport.exact_expected (made : g.Made 0 b)
    (keyed : ∀ p ∈ o.attrs, p.1 ≠ "") (time : Nat → Float) (starts : Starts) :
    (expected g o (allDelivered time o.rounds .empty)
      (b.interpret (List.replicate o.rounds (o.call now)) starts)).Exact b o now := by
  let entries := b.interpret (List.replicate o.rounds (o.call now)) starts
  have names : (g.names.map (SinkReport.expected g entries)).map SinkReport.name = g.names := by
    rw [List.map_map]
    exact List.map_id g.names
  have sorted : ((g.names.map (SinkReport.expected g entries)).map SinkReport.name).Pairwise
      (· < ·) := names.symm ▸ g.sorted_names
  obtain ⟨total, failed, none_yet⟩ := totals_allDelivered time o.rounds .empty
  obtain ⟨total', failed'⟩ := totals_ofSinks (o := o) (allDelivered time o.rounds .empty) []
    (g.names.map (SinkReport.expected g entries))
  refine ⟨rfl, rfl, ?_, failed'.trans failed, rfl, sorted, ?_, counters_ofSinks _ none_yet [] sorted,
    fun s hs => ?_⟩
  · exact total'.trans (total.trans (Nat.zero_add _))
  · exact names.symm ▸ made.names
  · obtain ⟨name, there, rfl⟩ := List.mem_map.mp hs
    exact SinkReport.exact_expected made keyed starts there

/-- With a loaded configuration both ways to meter the leaves lead to the report that is expected. -/
theorem emit_expected {files : Files} (loaded : load files o.config = .ok b) (draws : Nat → Nat)
    (now : Instant) (time : Nat → Float) :
    ∃ (g : Registry Unit) (m : Emitter) (w : World Unit), g.Made 0 b ∧
      prepare files draws o = .ok (m, w) ∧
      let r := EmitReport.expected g o (allDelivered time o.rounds .empty)
        (b.interpret (List.replicate o.rounds (o.call now))
          (World.start () draws : World Unit).starts)
      EmitReport.ofTally m (Tally.run m now time o.rounds (.start w)) = r ∧
      ∀ visited, visited.Perm (b.sinks.map SinkSpec.name) →
        emitIn visited files draws now time o = r.answer o.json := by
  have valid := valid_of_loaded loaded
  obtain ⟨g, w, made, _, _, registry⟩ := Registry.ofBlueprint_made (fun _ => 0)
    (Blueprint.distinct_of_valid valid) 0 (World.start () draws)
  obtain ⟨root, v, built, report⟩ := report_of_made o now time valid made (.refl g.names)
  let m : Emitter := ⟨o, Emitter.metered g, Emitter.derive (.new root) o⟩
  refine ⟨g, m, v, registry, ?_, ?_, fun visited every => ?_⟩
  · rw [prepare, loaded]
    simp only [bind, Except.bind, Emitter.ofBlueprint, made, Emitter.metered, built, pure,
      Except.pure]
    rfl
  · rw [← report, ofTally_eq]
    simp only [m, Emitter.metered, Registry.names_mapLeaves]
    rfl
  · have every' : visited.Perm g.names := every.trans registry.names.symm
    obtain ⟨root, v, built, report⟩ := report_of_made o now time valid made every'
    rw [← report, emitIn, loaded]
    simp only [made, Metering.visitAll_eq every', built, sorted_meters every', List.map_map]
    rfl

end

/-- An emission that the arguments ask for gets as far as its report. The report says exactly what the
records meet with, that is what is printed, and the command succeeds. The order in which the leaves get
their meters makes no difference. -/
theorem emit_exact {environment : String → Option String} {args : List String} {o : EmitOptions}
    (asks : AsksFor environment args o) {files : Files} {b : Blueprint}
    (loaded : load files o.config = .ok b) (draws : Nat → Nat) (now : Instant)
    (time : Nat → Float) :
    ∃ m w, prepare files draws o = .ok (m, w) ∧
      let r := EmitReport.ofTally m (Tally.run m now time o.rounds (.start w))
      r.Exact b o now ∧ emit files draws now time o = ⟨o.shown r, []⟩ ∧
      ∀ visited, visited.Perm (b.sinks.map SinkSpec.name) →
        emitIn visited files draws now time o = emit files draws now time o := by
  have keyed : ∀ p ∈ o.attrs, p.1 ≠ "" := by
    obtain ⟨i, parsed, emits, _⟩ := asks
    obtain ⟨m, rfl⟩ := emitOf_of_parse parsed emits
    exact keys_of_pairs
  obtain ⟨g, m, w, made, prepared, report, any_order⟩ := emit_expected loaded draws now time
  have exact : (EmitReport.expected g o (allDelivered time o.rounds .empty) _).Exact b o now :=
    EmitReport.exact_expected made keyed time (World.start () draws : World Unit).starts
  rw [← report] at exact any_order
  let r := EmitReport.ofTally m (Tally.run m now time o.rounds (.start w))
  have answer : r.answer o.json = ⟨o.shown r, []⟩ := EmitReport.answer_of_exact exact
  have emitted : emit files draws now time o = ⟨o.shown r, []⟩ := by
    rw [emit, prepared]
    exact answer
  exact ⟨m, w, prepared, exact, emitted, fun visited every =>
    (any_order visited every).trans (answer.trans emitted.symm)⟩

theorem load_of_text {path text : String} {f : Format} {b : Blueprint}
    (format : Format.ofPath path = .ok f) (loaded : Blueprint.load f text = .ok b) :
    load (fun _ => .ok text.toUTF8) path = .ok b := by
  have found : Files.has (fun _ => .ok text.toUTF8) path = true := rfl
  have read : Files.read (fun _ => .ok text.toUTF8) path = .ok text := by
    have whole : String.fromUTF8? text.toUTF8 = some text := dif_pos text.isValidUTF8
    simp only [Files.read, whole]
  have file : Blueprint.loadFile (fun _ => .ok text.toUTF8) path = .ok b := by
    rw [Blueprint.loadFile, format]
    simp only [bind, Except.bind, read, loaded]
  rw [load, if_pos found, file]

theorem emit_exact_shared :
    let text := "[[sinks]]\nname = 'm'\nsink_type = 'memory'\n[root]\nstrategy = 'fanout'\n" ++
      "[[root.members]]\nstrategy = 'sink'\nname = 'm'\n" ++
      "[[root.members]]\nstrategy = 'sink'\nname = 'm'\n"
    let args := ["emit", "-c", "t.toml", "-m", "x", "--with", "a=1", "--group", "g", "--attr", "b=z",
      "--repeat", "2"]
    let o : EmitOptions := ⟨"t.toml", .info, "x", [("b", "z")], ["g"], [("a", "1")], 2, 0, false⟩
    let files : Files := fun _ => .ok text.toUTF8
    AsksFor (fun _ => none) args o ∧ o.texts = ["a=1", "g.b=z"] ∧
      ∃ b rate latency, load files o.config = .ok b ∧
        emit files id ⟨0, 0⟩ (fun _ => 0.5) o =
          ⟨"✓ Emitted 2 x [info] \"x\"\n" ++
            ("\n  m (handled 4, failed 0, filtered 0)\n    [info] x a=1 g.b=z\n" ++
              "    [info] x a=1 g.b=z\n    [info] x a=1 g.b=z\n    [info] x a=1 g.b=z\n") ++
            "\n" ++ ("=== Delivery Summary ===\nRecords emitted: 2\nFailed deliveries: 0 (" ++ rate ++
              "%)\n" ++ "Handle latency (ms): " ++ latency ++ "\n" ++
              "Per-sink counters:\n  m: handled=4 failed=0 filtered=0\n"), []⟩ := by
  intro text args o files
  have parsed : (parse (fun _ => none) args).toOption.map Invocation.command = some (.emit o) := by
    decide +kernel
  have asks : AsksFor (fun _ => none) args o := by
    cases read : parse (fun _ => none) args with
    | error e => rw [read] at parsed; contradiction
    | ok i =>
      rw [read] at parsed
      exact ⟨i, read, Option.some.inj parsed, rfl⟩
  have run : (Blueprint.load .toml text).toOption.any (fun b =>
      !b.root.hasPool && b.sinks.map (fun s => (s.name, s.sinkType)) == [("m", .memory)] &&
        (b.reach (o.call ⟨0, 0⟩).view id).1 == ["m", "m"]) = true := by
    decide +kernel
  obtain ⟨b, loaded, good⟩ := Codec.exists_loaded run
  simp only [Bool.and_eq_true, Bool.not_eq_true', beq_iff_eq] at good
  obtain ⟨⟨free, sinks⟩, reached⟩ := good
  have format : Format.ofPath o.config = .ok .toml := by
    have parts : "t.toml".splitOn "/" = ["t.toml"] := by
      rw [String.splitOn, if_neg (by decide)]
      iterate 7 unfold String.splitOnAux
      decide +kernel
    rw [Format.ofPath, ending?, fileName?, Files.parts, parts]
    decide +kernel
  have there : load files o.config = .ok b := load_of_text format loaded
  have texts : o.texts = ["a=1", "g.b=z"] := by decide +kernel
  obtain ⟨m, w, _, exact, emitted, _⟩ := emit_exact asks there id ⟨0, 0⟩ fun _ => 0.5
  generalize EmitReport.ofTally m _ = r at exact emitted
  obtain ⟨s, rs, shown, name, handled, held, captured⟩ := exact.single free sinks id
  rw [reached] at handled captured
  have first : s!"✓ Emitted {o.rounds} x " ++ s!"[{o.level.name}] {Text.quoted o.message}\n" =
      "✓ Emitted 2 x [info] \"x\"\n" := by decide +kernel
  have lines : String.join [o.sinkLines s] =
      "\n  m (handled 4, failed 0, filtered 0)\n    [info] x a=1 g.b=z\n" ++
        "    [info] x a=1 g.b=z\n    [info] x a=1 g.b=z\n    [info] x a=1 g.b=z\n" := by
    simp only [EmitOptions.sinkLines, held, captured, name, handled, EmitOptions.recordLine, texts]
    decide +kernel
  have totals : "=== Delivery Summary ===\n" ++ s!"Records emitted: {o.rounds}\n" ++
      "Failed deliveries: 0 (" =
        "=== Delivery Summary ===\nRecords emitted: 2\nFailed deliveries: 0 (" := by
    decide +kernel
  have counters : EmitOptions.counterLines [s] =
      "Per-sink counters:\n  m: handled=4 failed=0 filtered=0\n" := by
    rw [EmitOptions.counterLines, List.isEmpty_cons, if_neg Bool.false_ne_true, List.map_singleton,
      name, handled]
    decide +kernel
  refine ⟨asks, texts, b, Decimal.fixed 2 r.summary.failureRate, r.summary.latency.text, there, ?_⟩
  rw [emitted, EmitOptions.shown, if_neg (by decide), EmitOptions.reportLines, shown, List.map_singleton,
    first, lines, totals, counters]

end CommandLine
end LogTree
