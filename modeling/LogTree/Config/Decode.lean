import LogTree.Config.Blueprint
import LogTree.Data

/-!
Reading a blueprint from a document. A structure is a table, whose unknown entries are skipped, or an
array of its fields in order; the kind of a node or a predicate is an entry of its table or the
first item of its array. Notations differ in small points, gathered in `Dialect`.
-/
namespace LogTree.Config

/-- What a notation allows outside the tree of nodes. -/
structure Dialect where
  /-- Items beyond the last field of a structure are skipped. -/
  skipsSurplus : Bool
  /-- What may stand beside the name of a choice that is written as a table. -/
  isUnit : Data → Bool
  /-- Inside the tree the kind may be given by its number. -/
  countsKinds : Bool

def Dialect.json : Dialect where
  skipsSurplus := false
  isUnit
    | .null => true
    | _ => false
  countsKinds := true

def Dialect.toml : Dialect where
  skipsSurplus := true
  isUnit
    | .table es => es.isEmpty
    | .array ds => ds.isEmpty
    | _ => false
  countsKinds := false

/-- Inside the tree an empty table counts as nothing too. -/
def isNothing : Data → Bool
  | .null => true
  | .table es => es.isEmpty
  | _ => false

/-- The fields by name or by place; `none` inside is a field that is missing. -/
def fieldsOf (surplus : Bool) (names : List String) : Data → Option (List (Option Data))
  | .table es => names.mapM fun n =>
    match es.filter (·.1 == n) with
    | [] => some none
    | [(_, d)] => some (some d)
    | _ => none
  | .array ds =>
    if surplus || ds.length ≤ names.length then
      some (names.zipIdx.map fun (_, i) => ds[i]?)
    else none
  | _ => none

def required {α : Type} (read : Data → Option α) : Option Data → Option α
  | some d => read d
  | none => none

def optional {α : Type} (standard : α) (read : Data → Option α) : Option Data → Option α
  | some d => read d
  | none => some standard

/-- A choice is its name, or a table of its name alone. -/
def choice {α : Type} (isUnit : Data → Bool) (ofName? : String → Option α) : Data → Option α
  | .string s => ofName? s
  | .table [(s, d)] => if isUnit d then ofName? s else none
  | _ => none

def listOf {α : Type} (read : Data → Option α) : Data → Option (List α)
  | .array ds => ds.mapM read
  | _ => none

def dictOf {α : Type} (read : Data → Option α) : Data → Option (Dict α)
  | .table es => (es.mapM fun e => (read e.2).map fun x => (e.1, x)).map Dict.ofList
  | _ => none

/-- A whole number beyond 64 bits with sign is read as a float. -/
def Scalar.ofData? : Data → Option Scalar
  | .bool b => some (.bool b)
  | .int n =>
    if -Int.pow 2 63 ≤ n && n < Int.pow 2 63 then some (.int (Int64.ofInt n))
    else if n < Int.pow 2 64 then some (.float n.toNat.toUInt64.toFloat)
    else none
  | .float x => some (.float x)
  | .string s => some (.string s)
  | _ => none

/-- The kind, and the value without it. -/
def splitKind (tag : String) : Data → Option (Data × Data)
  | .table es =>
    match es.filter (·.1 == tag) with
    | [(_, d)] => some (d, .table (es.filter (·.1 != tag)))
    | _ => none
  | .array (d :: rest) => some (d, .array rest)
  | _ => none

/-- The name of a kind; `counts` allows its number. -/
def kindName? (counts : Bool) (names : List String) : Data → Option String
  | .string s => if names.contains s then some s else none
  | .int n => if counts && 0 ≤ n then names[n.toNat]? else none
  | _ => none

namespace PredicateSpec

def kinds : List String :=
  ["level_is", "level_is_not", "message_is", "message_is_not", "message_contains",
    "message_not_contains", "attr_value_is", "attr_kind_is"]

def field? {α : Type} (name : String) (read : Data → Option α) (d : Data) : Option α := do
  let fields ← fieldsOf false [name] d
  required read fields.head?.join

def ofData? (counts : Bool) (d : Data) : Option PredicateSpec := do
  let (kind, rest) ← splitKind "type" d
  let level := choice isNothing Level.ofName?
  match ← kindName? counts kinds kind with
  | "level_is" => (field? "levels" (listOf level) rest).map .levelIs
  | "level_is_not" => (field? "levels" (listOf level) rest).map .levelIsNot
  | "message_is" => (field? "message" Data.asString? rest).map .messageIs
  | "message_is_not" => (field? "message" Data.asString? rest).map .messageIsNot
  | "message_contains" => (field? "part" Data.asString? rest).map .messageContains
  | "message_not_contains" => (field? "part" Data.asString? rest).map .messageNotContains
  | "attr_value_is" => (field? "attrs" (dictOf Scalar.ofData?) rest).map .attrValueIs
  | "attr_kind_is" =>
    (field? "attrs" (dictOf (choice isNothing ValueKind.ofName?)) rest).map .attrKindIs
  | _ => none

end PredicateSpec

namespace Node

def kinds : List String := ["sink", "fanout", "failover", "pool", "router"]

/-- `fuel` bounds the nesting; `counts` holds below the root only. -/
def ofDataWithin (dialect : Dialect) : Nat → Bool → Data → Option Node
  | 0, _, _ => none
  | fuel + 1, inside, d => do
    let (kind, rest) ← splitKind "strategy" d
    let below := ofDataWithin dialect fuel true
    let members := PredicateSpec.field? "members" (listOf below) rest
    match ← kindName? (inside && dialect.countsKinds) kinds kind with
    | "sink" => (PredicateSpec.field? "name" Data.asString? rest).map .sink
    | "fanout" => members.map (.group .fanout)
    | "failover" => members.map (.group .failover)
    | "pool" => members.map (.group .pool)
    | "router" =>
      let fields ← fieldsOf false ["routes", "first_match"] rest
      let route (d : Data) : Option (List PredicateSpec × Node) := do
        let parts ← fieldsOf false ["predicates", "target"] d
        let spec := PredicateSpec.ofData? dialect.countsKinds
        let ps ← optional [] (listOf spec) parts.head?.join
        let target ← required below parts[1]?.join
        some (ps, target)
      let routes ← required (listOf route) fields.head?.join
      let first ← optional false Data.asBool? fields[1]?.join
      some (.router routes first)
    | _ => none

end Node

mutual

/-- How deep arrays and tables are nested. -/
def depth : Data → Nat
  | .array ds => depthOfItems ds + 1
  | .table es => depthOfEntries es + 1
  | _ => 0

def depthOfItems : List Data → Nat
  | [] => 0
  | d :: rest => max (depth d) (depthOfItems rest)

def depthOfEntries : List (String × Data) → Nat
  | [] => 0
  | (_, d) :: rest => max (depth d) (depthOfEntries rest)

end

/-- The tree is read as a whole, so nothing in it may be unreadable. -/
def Node.ofData? (dialect : Dialect) (d : Data) : Option Node :=
  if d.isReadable then Node.ofDataWithin dialect (depth d) false d else none

def SinkSpec.ofData? (dialect : Dialect) (d : Data) : Option SinkSpec := do
  let fields ← fieldsOf dialect.skipsSurplus ["name", "sink_type", "min_level"] d
  let name ← required Data.asString? fields.head?.join
  let sinkType ← required (choice dialect.isUnit SinkType.ofName?) fields[1]?.join
  let least ← optional Level.standard (choice dialect.isUnit Level.ofName?) fields[2]?.join
  some ⟨name, sinkType, least⟩

def Version.ofName? (s : String) : Option Version := if s == "V1" then some .v1 else none

def Blueprint.ofData? (dialect : Dialect) (d : Data) : Option Blueprint := do
  let fields ← fieldsOf dialect.skipsSurplus ["version", "recover", "sinks", "root"] d
  let version ← optional .v1 (choice dialect.isUnit Version.ofName?) fields.head?.join
  let recover ← optional false Data.asBool? fields[1]?.join
  let sinks ← required (listOf (SinkSpec.ofData? dialect)) fields[2]?.join
  let root ← required (Node.ofData? dialect) fields[3]?.join
  some ⟨version, recover, sinks, root⟩

end LogTree.Config
