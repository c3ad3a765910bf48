import LogTree.CommandLine.Options
import LogTree.Config.Load
import LogTree.Logger
import LogTree.Registry
import LogTree.Stats.Delivery

/-!
Sending test records through a tree: every leaf is metered, the record is logged as often as asked, and
the report says what each sink made of it. The time of each round comes from outside.
-/
namespace LogTree.CommandLine
open Config

/-- A whole number, a finite number or a truth value where the text is one. -/
def inferValue (s : String) : Value :=
  match Decimal.readInt? (-Int.pow 2 63) (Int.pow 2 63 - 1) s with
  | some n => .int (Int64.ofInt n)
  | none =>
    match (Decimal.readFloat? s).filter Float.isFinite with
    | some x => .float x
    | none =>
      match s with
      | "true" => .bool true
      | "false" => .bool false
      | _ => .string s

def inferAttrs (ps : List (String × String)) : List Attr :=
  ps.map fun p => .mk p.1 (inferValue p.2)

structure Emitter where
  options : EmitOptions
  registry : Registry Unit
  logger : Logger Unit

namespace Emitter

/-- Each leaf gets a meter of its own; they are numbered by name. -/
def metered (g : Registry Unit) : Registry Unit :=
  g.mapLeaves fun name s => .metered (g.names.idxOf name) s

/-- Attributes are bound before groups are opened. -/
def derive (l : Logger Unit) (o : EmitOptions) : Logger Unit :=
  o.groups.foldl Logger.withGroup (l.withAttrs (inferAttrs o.bound))

/-- A failure comes with the step that failed. -/
def ofBlueprint (b : Blueprint) (o : EmitOptions) (w : World Unit) :
    Except (List String) Emitter × World Unit :=
  match Registry.ofBlueprint 0 b w with
  | (.error e, w) => (.error ("Failed to create sinks" :: e.chain), w)
  | (.ok g, w) =>
    let g := metered g
    match g.build b w with
    | (.error e, w) => (.error ("Failed to build topology" :: e.chain), w)
    | (.ok root, w) => (.ok ⟨o, g, derive (.new root) o⟩, w)

def round (m : Emitter) (now : Instant) (w : World Unit) : Outcome × World Unit :=
  m.logger.log now m.options.level m.options.message (inferAttrs m.options.attrs) w

end Emitter

structure Tally where
  world : World Unit
  summary : Delivery.Summary Float
  /-- The texts of the failures, each once. -/
  errors : Dict Unit

namespace Tally

def start (w : World Unit) : Tally := ⟨w, .empty, .empty⟩

def addErrors (errors : Dict Unit) : Outcome → Dict Unit
  | .fine => errors
  | .failed e => e.leaves.foldl (fun d x => d.insert x.text ()) errors
  | .panicked p => errors.insert p.message ()

def isFine : Outcome → Bool
  | .fine => true
  | _ => false

def add (t : Tally) (result : Outcome × World Unit) (milliseconds : Float) : Tally :=
  ⟨result.2, t.summary.update (isFine result.1) milliseconds, addErrors t.errors result.1⟩

/-- `time` gives the milliseconds of the rounds that are left. -/
def run (m : Emitter) (now : Instant) (time : Nat → Float) : Nat → Tally → Tally
  | 0, t => t
  | n + 1, t => run m now time n (t.add (m.round now t.world) (time n))

end Tally

structure SinkReport where
  name : String
  counters : Counters
  /-- What the sink kept, if it keeps records. -/
  captured : Option (List Record)

structure EmitReport where
  level : Level
  message : String
  summary : Delivery.Summary Float
  errors : List String
  sinks : List SinkReport

namespace EmitReport

def ofTally (m : Emitter) (t : Tally) : EmitReport :=
  let sinks := m.registry.names.zipIdx.map fun (name, i) =>
    (⟨name, t.world.counters i,
      (m.registry.memory? name).map fun h => t.world.buffer h.buffer⟩ : SinkReport)
  ⟨m.options.level, m.options.message,
    sinks.foldl (fun s r => s.setCounters r.name r.counters) t.summary, t.errors.keys, sinks⟩

def failed (r : EmitReport) : Nat := r.summary.failed

def attrTexts (r : Record) : List String :=
  (leafVisits r.attrs).map fun v => v.path ++ "=" ++ v.value.text

def recordData (r : Record) : Data :=
  .table [("level", .string r.level.name), ("message", .string r.message),
    ("attrs", .array ((attrTexts r).map Data.string))]

def sinkData (s : SinkReport) : Data :=
  .table ([("name", .string s.name), ("handled", .int s.counters.handled.toNat),
    ("failed", .int s.counters.failed.toNat), ("filtered", .int s.counters.filtered.toNat)] ++
    (s.captured.map fun rs => ("captured", Data.array (rs.map recordData))).toList)

def data (r : EmitReport) : Data :=
  .table ([("level", .string r.level.name), ("message", .string r.message),
    ("emitted", .int r.summary.total), ("failed", .int r.failed)] ++
    (if r.errors.isEmpty then [] else [("errors", .array (r.errors.map Data.string))]) ++
    [("latency_mean_ms", .float r.summary.latency.mean), ("sinks", .array (r.sinks.map sinkData))])

def recordText (r : Record) : String :=
  s!"    [{r.level.name}] {r.message} " ++ " ".intercalate (attrTexts r) ++ "\n"

def sinkText (s : SinkReport) : String :=
  let c := s.counters
  s!"\n  {s.name} (handled {c.handled.toNat}, failed {c.failed.toNat}, filtered {c.filtered.toNat})\n"
    ++ String.join ((s.captured.getD []).map recordText)

def headline (r : EmitReport) : String :=
  let record := s!"[{r.level.name}] {Text.quoted r.message}\n"
  if r.failed == 0 then s!"✓ Emitted {r.summary.total} x " ++ record
  else
    s!"✗ {r.failed} of {r.summary.total} deliveries failed for " ++ record ++
      String.join (r.errors.map fun e => s!"  - {e}\n")

def text (r : EmitReport) : String :=
  r.headline ++ String.join (r.sinks.map sinkText) ++ "\n" ++ r.summary.text

end EmitReport
end LogTree.CommandLine
