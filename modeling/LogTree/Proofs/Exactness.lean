import LogTree.CommandLine.Run
import LogTree.Proofs.Captured

/-!
When the report of an emission is exact, and what it prints then. The printed report is told from the
options, the counters and the number of captured records alone. Main statement: `answer_of_exact`.
-/
namespace LogTree
open Config

namespace Config.Node

mutual

def hasPool : Node → Bool
  | .sink _ => false
  | .group strategy members => strategy == .pool || anyPool members
  | .router routes _ => anyPoolTarget routes

def anyPool : List Node → Bool
  | [] => false
  | n :: rest => hasPool n || anyPool rest

def anyPoolTarget : List (List PredicateSpec × Node) → Bool
  | [] => false
  | (_, target) :: rest => hasPool target || anyPoolTarget rest

end

theorem anyPool_eq_any (ns : List Node) : anyPool ns = ns.any hasPool := by
  induction ns with
  | nil => simp [anyPool]
  | cons n rest ih => simp [anyPool, ih]

theorem anyPoolTarget_eq_any (rs : List (List PredicateSpec × Node)) :
    anyPoolTarget rs = rs.any fun r => r.2.hasPool := by
  induction rs with
  | nil => simp [anyPoolTarget]
  | cons r rest ih => simp [anyPoolTarget, ih]

end Config.Node

namespace CommandLine

/-- What a part of the report says of its sink, and it is right. Counters are words, so they wrap. -/
structure SinkReport.Exact (b : Blueprint) (o : EmitOptions) (now : Instant) (s : SinkReport) :
    Prop where
  failed : s.counters.failed = 0
  filtered : s.counters.filtered = 0
  shown : s.captured.isSome = true ↔ ∃ spec ∈ b.sinks, spec.name = s.name ∧ spec.sinkType = .memory
  captured : ∀ rs, s.captured = some rs → s.counters.handled.toNat = rs.length % UInt64.size ∧
    ∀ r ∈ rs, r.level = o.level ∧ r.message = o.message ∧ EmitReport.attrTexts r = o.texts
  multiple : b.root.hasPool = false → ∀ starts, s.counters.handled.toNat =
    o.rounds * (b.reach (o.call now).view starts).1.count s.name % UInt64.size
  kept : b.root.hasPool = false → ∀ starts rs, s.captured = some rs →
    rs.length = o.rounds * (b.reach (o.call now).view starts).1.count s.name

structure EmitReport.Exact (b : Blueprint) (o : EmitOptions) (now : Instant) (r : EmitReport) :
    Prop where
  level : r.level = o.level
  message : r.message = o.message
  emitted : r.summary.total = o.rounds
  failed : r.failed = 0
  errors : r.errors = []
  sorted : (r.sinks.map SinkReport.name).Pairwise (· < ·)
  declared : (r.sinks.map SinkReport.name).Perm (b.sinks.map SinkSpec.name)
  counters : r.summary.counters.entries = r.sinks.map fun s => (s.name, s.counters)
  sinks : ∀ s ∈ r.sinks, s.Exact b o now

namespace EmitOptions
variable (o : EmitOptions)

/-! As data -/

/-- All captured records are alike. -/
def recordData : Data :=
  .table [("level", .string o.level.name), ("message", .string o.message),
    ("attrs", .array (o.texts.map Data.string))]

def sinkData (s : SinkReport) : Data :=
  let counts : List (String × Data) := [("name", .string s.name),
    ("handled", .int s.counters.handled.toNat), ("failed", .int 0), ("filtered", .int 0)]
  match s.captured with
  | none => .table counts
  | some rs => .table (counts ++ [("captured", .array (List.replicate rs.length o.recordData))])

def reportData (latency : Float) (sinks : List SinkReport) : Data :=
  .table [("level", .string o.level.name), ("message", .string o.message),
    ("emitted", .int o.rounds), ("failed", .int 0), ("latency_mean_ms", .float latency),
    ("sinks", .array (sinks.map o.sinkData))]

/-! As lines -/

def recordLine : String :=
  s!"    [{o.level.name}] {o.message} " ++ " ".intercalate o.texts ++ "\n"

def sinkLines (s : SinkReport) : String :=
  s!"\n  {s.name} (handled {s.counters.handled.toNat}, failed 0, filtered 0)\n" ++
    match s.captured with
    | none => ""
    | some rs => String.join (List.replicate rs.length o.recordLine)

/-- The lines of the sinks in the summary. -/
def counterLines (sinks : List SinkReport) : String :=
  if sinks.isEmpty then ""
  else "Per-sink counters:\n" ++ String.join (sinks.map fun s =>
    s!"  {s.name}: handled={s.counters.handled.toNat} failed=0 filtered=0\n")

/-- Rates and latencies are measured, so they are not told from the options. -/
def reportLines (rate latency : String) (sinks : List SinkReport) : String :=
  s!"✓ Emitted {o.rounds} x " ++ s!"[{o.level.name}] {Text.quoted o.message}\n" ++
    String.join (sinks.map o.sinkLines) ++ "\n" ++
    ("=== Delivery Summary ===\n" ++ s!"Records emitted: {o.rounds}\n" ++
      "Failed deliveries: 0 (" ++ rate ++ "%)\n" ++ "Handle latency (ms): " ++ latency ++ "\n" ++
      counterLines sinks)

def shown (r : EmitReport) : String :=
  if o.json then Json.pretty (o.reportData r.summary.latency.mean r.sinks) ++ "\n"
  else o.reportLines (Decimal.fixed 2 r.summary.failureRate) r.summary.latency.text r.sinks

end EmitOptions

section
variable {b : Blueprint} {o : EmitOptions} {now : Instant}

theorem SinkReport.Exact.data {s : SinkReport} (exact : s.Exact b o now) :
    EmitReport.sinkData s = o.sinkData s := by
  have alike : ∀ rs, s.captured = some rs →
      rs.map EmitReport.recordData = List.replicate rs.length o.recordData := by
    intro rs held
    refine List.map_eq_replicate_iff.mpr fun r hr => ?_
    obtain ⟨level, message, texts⟩ := (exact.captured rs held).2 r hr
    rw [EmitReport.recordData, level, message, texts]
    rfl
  rw [EmitReport.sinkData, exact.failed, exact.filtered, EmitOptions.sinkData]
  cases held : s.captured with
  | none => rfl
  | some rs =>
    rw [Option.map_some, alike rs held]
    rfl

theorem SinkReport.Exact.text {s : SinkReport} (exact : s.Exact b o now) :
    EmitReport.sinkText s = o.sinkLines s := by
  have zeros : ∀ before : String, before ++ ", failed " ++ "0" ++ ", filtered " ++ "0" ++ ")\n" =
      before ++ ", failed 0, filtered 0)\n" := by
    intro before
    simp only [String.append_assoc]
    rfl
  have alike : ∀ rs, s.captured = some rs →
      rs.map EmitReport.recordText = List.replicate rs.length o.recordLine := by
    intro rs held
    refine List.map_eq_replicate_iff.mpr fun r hr => ?_
    obtain ⟨level, message, texts⟩ := (exact.captured rs held).2 r hr
    rw [EmitReport.recordText, level, message, texts]
    rfl
  have kept : String.join ((s.captured.getD []).map EmitReport.recordText) =
      match s.captured with
      | none => ""
      | some rs => String.join (List.replicate rs.length o.recordLine) := by
    cases held : s.captured with
    | none => rfl
    | some rs => exact congrArg String.join (alike rs held)
  rw [EmitReport.sinkText, exact.failed, exact.filtered, EmitOptions.sinkLines, ← kept]
  exact congrArg (· ++ _) (zeros _)

theorem SinkReport.Exact.countersText {s : SinkReport} (exact : s.Exact b o now) :
    Delivery.Summary.countersText s.name s.counters =
      s!"  {s.name}: handled={s.counters.handled.toNat} failed=0 filtered=0\n" := by
  have zeros : ∀ before : String, before ++ " failed=" ++ "0" ++ " filtered=" ++ "0" ++ "\n" =
      before ++ " failed=0 filtered=0\n" := by
    intro before
    simp only [String.append_assoc]
    rfl
  rw [Delivery.Summary.countersText, exact.failed, exact.filtered]
  exact zeros _

namespace EmitReport.Exact
variable {r : EmitReport}

theorem data (exact : r.Exact b o now) :
    r.data = o.reportData r.summary.latency.mean r.sinks := by
  have sinks : r.sinks.map sinkData = r.sinks.map o.sinkData :=
    List.map_congr_left fun s hs => (exact.sinks s hs).data
  rw [EmitReport.data, exact.level, exact.message, exact.emitted, exact.failed, exact.errors, sinks]
  rfl

theorem counterLines (exact : r.Exact b o now) :
    (if r.summary.counters.isEmpty then ""
      else "Per-sink counters:\n" ++ String.join
        (r.summary.counters.entries.map fun e => Delivery.Summary.countersText e.1 e.2)) =
      EmitOptions.counterLines r.sinks := by
  have none_yet : r.summary.counters.isEmpty = r.sinks.isEmpty := by
    rw [Dict.isEmpty, exact.counters, List.isEmpty_map]
  have lines : (r.summary.counters.entries.map fun e => Delivery.Summary.countersText e.1 e.2) =
      r.sinks.map fun s =>
        s!"  {s.name}: handled={s.counters.handled.toNat} failed=0 filtered=0\n" := by
    rw [exact.counters, List.map_map]
    exact List.map_congr_left fun s hs => (exact.sinks s hs).countersText
  rw [none_yet, lines, EmitOptions.counterLines]

theorem headline (exact : r.Exact b o now) :
    r.headline = s!"✓ Emitted {o.rounds} x " ++ s!"[{o.level.name}] {Text.quoted o.message}\n" := by
  rw [EmitReport.headline, exact.failed, exact.level, exact.message, exact.emitted]
  rfl

theorem summary (exact : r.Exact b o now) :
    r.summary.text = "=== Delivery Summary ===\n" ++ s!"Records emitted: {o.rounds}\n" ++
      "Failed deliveries: 0 (" ++ Decimal.fixed 2 r.summary.failureRate ++ "%)\n" ++
      "Handle latency (ms): " ++ r.summary.latency.text ++ "\n" ++
      EmitOptions.counterLines r.sinks := by
  have none_failed : r.summary.failed = 0 := exact.failed
  have line : s!"Failed deliveries: {0} (" = "Failed deliveries: 0 (" := rfl
  unfold Delivery.Summary.text
  rw [exact.counterLines, exact.emitted, none_failed, line]

theorem text (exact : r.Exact b o now) :
    r.text =
      o.reportLines (Decimal.fixed 2 r.summary.failureRate) r.summary.latency.text r.sinks := by
  have sinks : r.sinks.map sinkText = r.sinks.map o.sinkLines :=
    List.map_congr_left fun s hs => (exact.sinks s hs).text
  unfold EmitReport.text EmitOptions.reportLines
  rw [exact.headline, sinks, exact.summary]

/-- The part of the report for a single sink that captures, when no rotation is involved. -/
theorem single (exact : r.Exact b o now) (free : b.root.hasPool = false) {name : String}
    (sinks : b.sinks.map (fun s => (s.name, s.sinkType)) = [(name, .memory)]) (starts : Starts) :
    let n := o.rounds * (b.reach (o.call now).view starts).1.count name
    ∃ s rs, r.sinks = [s] ∧ s.name = name ∧ s.counters.handled.toNat = n % UInt64.size ∧
      s.captured = some rs ∧ rs.length = n := by
  obtain ⟨spec, declared, same⟩ := List.map_eq_singleton_iff.mp sinks
  obtain ⟨named, kept⟩ := Prod.mk.inj same
  have only := exact.declared
  rw [declared, List.map_singleton, named] at only
  obtain ⟨s, shown, name_eq⟩ := List.map_eq_singleton_iff.mp (List.perm_singleton.mp only)
  have right := exact.sinks s (shown ▸ List.mem_cons_self)
  have holds : s.captured.isSome = true :=
    right.shown.mpr ⟨spec, declared ▸ List.mem_cons_self, named.trans name_eq.symm, kept⟩
  obtain ⟨rs, held⟩ := Option.isSome_iff_exists.mp holds
  have handled := right.multiple free starts
  have captured := right.kept free starts rs held
  rw [name_eq] at handled captured
  exact ⟨s, rs, shown, name_eq, handled, held, captured⟩

end EmitReport.Exact

theorem EmitReport.answer_of_exact {r : EmitReport} (exact : r.Exact b o now) :
    r.answer o.json = ⟨o.shown r, []⟩ := by
  rw [answer, exact.failed, exact.data, exact.text]
  rfl

end
end CommandLine
end LogTree
