import LogTree.Dict
import LogTree.Predicate

/-! What a configuration describes: the leaves by name, and the tree of strategies over them. -/
namespace LogTree.Config

inductive Version where
  | v1
  deriving DecidableEq, Repr, Inhabited

def Version.name : Version → String
  | .v1 => "V1"

inductive SinkType where
  | log
  | memory
  deriving DecidableEq, Repr, Inhabited

namespace SinkType

def name : SinkType → String
  | .log => "log"
  | .memory => "memory"

def title : SinkType → String
  | .log => "Log"
  | .memory => "Memory"

def ofName? (s : String) : Option SinkType := [log, memory].find? (·.name == s)

end SinkType

structure SinkSpec where
  name : String
  sinkType : SinkType
  least : Level
  deriving DecidableEq, Repr, Inhabited

inductive Scalar where
  | bool (value : Bool)
  | int (value : Int64)
  | float (value : Float)
  | string (text : String)

def Scalar.value : Scalar → Value
  | .bool b => .bool b
  | .int i => .int i
  | .float x => .float x
  | .string s => .string s

inductive PredicateSpec where
  | levelIs (levels : List Level)
  | levelIsNot (levels : List Level)
  | messageIs (message : String)
  | messageIsNot (message : String)
  | messageContains (part : String)
  | messageNotContains (part : String)
  | attrValueIs (attrs : Dict Scalar)
  | attrKindIs (attrs : Dict ValueKind)

def PredicateSpec.predicate {σ : Type} : PredicateSpec → Predicate σ
  | .levelIs levels => .level levels false
  | .levelIsNot levels => .level levels true
  | .messageIs message => .message (.equals message) false
  | .messageIsNot message => .message (.equals message) true
  | .messageContains part => .message (.contains part) false
  | .messageNotContains part => .message (.contains part) true
  | .attrValueIs attrs => .attrValues (attrs.entries.map fun e => (e.1, e.2.value))
  | .attrKindIs attrs => .attrKinds attrs.entries

inductive Strategy where
  | fanout
  | failover
  | pool
  deriving DecidableEq, Repr, Inhabited

def Strategy.name : Strategy → String
  | .fanout => "fanout"
  | .failover => "failover"
  | .pool => "pool"

inductive Node where
  | sink (name : String)
  | group (strategy : Strategy) (members : List Node)
  | router (routes : List (List PredicateSpec × Node)) (firstMatch : Bool)

namespace Node

def strategy : Node → String
  | .sink _ => "sink"
  | .group s _ => s.name
  | .router _ _ => "router"

def children : Node → List Node
  | .sink _ => []
  | .group _ members => members
  | .router routes _ => routes.map Prod.snd

end Node

structure Blueprint where
  version : Version
  recover : Bool
  sinks : List SinkSpec
  root : Node

end LogTree.Config
