import LogTree.SinkError
import LogTree.World

/-! The calls by which measurements reach a collector of metrics. -/
namespace LogTree

inductive MetricCall where
  | absolute (name : String) (labels : List (String × String)) (value : UInt64)
  | increment (name : String) (labels : List (String × String)) (value : UInt64)
  | set (name : String) (labels : List (String × String)) (value : Float)
  | record (name : String) (labels : List (String × String)) (value : Float)

namespace MetricCall

/-- The counters of a sink, and the share of failures once a record was attempted. More attempts than a
counter can hold end in a panic. -/
def ofCounters (sink : String) (c : Counters) : Except Payload (List MetricCall) :=
  let labels := [("sink", sink)]
  let attempts := c.handled + c.failed
  if attempts < c.handled then .error (.text "attempt to add with overflow")
  else .ok ([.absolute "sinkmux_sink_handled_total" labels c.handled,
    .absolute "sinkmux_sink_failed_total" labels c.failed,
    .absolute "sinkmux_sink_filtered_total" labels c.filtered] ++
    if attempts == 0 then []
    else [.set "sinkmux_sink_failure_ratio" labels (c.failed.toFloat / attempts.toFloat)])

def ofEmission (level : Level) (delivered : Bool) : MetricCall :=
  .increment "sinkmux_records_emitted_total"
    [("level", level.name), ("status", if delivered then "success" else "failure")] 1

def ofLatency (milliseconds : Float) : MetricCall :=
  .record "sinkmux_handle_latency_ms" [] milliseconds

end MetricCall
end LogTree
