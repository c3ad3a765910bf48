import LogTree.Config.Blueprint
import LogTree.Data

/-! A blueprint as a document: every field is written, in a fixed order. -/
namespace LogTree.Config

def Scalar.data : Scalar → Data
  | .bool b => .bool b
  | .int i => .int i.toInt
  | .float x => .float x
  | .string s => .string s

def levelsData (levels : List Level) : Data := .array (levels.map fun l => .string l.name)

def PredicateSpec.data : PredicateSpec → Data
  | .levelIs levels => .table [("type", .string "level_is"), ("levels", levelsData levels)]
  | .levelIsNot levels => .table [("type", .string "level_is_not"), ("levels", levelsData levels)]
  | .messageIs m => .table [("type", .string "message_is"), ("message", .string m)]
  | .messageIsNot m => .table [("type", .string "message_is_not"), ("message", .string m)]
  | .messageContains p => .table [("type", .string "message_contains"), ("part", .string p)]
  | .messageNotContains p => .table [("type", .string "message_not_contains"), ("part", .string p)]
  | .attrValueIs attrs =>
    .table [("type", .string "attr_value_is"),
      ("attrs", .table (attrs.entries.map fun e => (e.1, e.2.data)))]
  | .attrKindIs attrs =>
    .table [("type", .string "attr_kind_is"),
      ("attrs", .table (attrs.entries.map fun e => (e.1, .string e.2.name)))]

namespace Node

mutual

def data : Node → Data
  | .sink name => .table [("strategy", .string "sink"), ("name", .string name)]
  | .group s members =>
    .table [("strategy", .string s.name), ("members", .array (dataEach members))]
  | .router routes first =>
    .table [("strategy", .string "router"), ("routes", .array (dataRoutes routes)),
      ("first_match", .bool first)]

def dataEach : List Node → List Data
  | [] => []
  | n :: rest => data n :: dataEach rest

def dataRoutes : List (List PredicateSpec × Node) → List Data
  | [] => []
  | (ps, target) :: rest =>
    .table [("predicates", .array (ps.map PredicateSpec.data)), ("target", data target)]
      :: dataRoutes rest

end

end Node

def SinkSpec.data (s : SinkSpec) : Data :=
  .table [("name", .string s.name), ("sink_type", .string s.sinkType.name),
    ("min_level", .string s.least.name)]

def Blueprint.data (b : Blueprint) : Data :=
  .table [("version", .string b.version.name), ("recover", .bool b.recover),
    ("sinks", .array (b.sinks.map SinkSpec.data)), ("root", b.root.data)]

end LogTree.Config
