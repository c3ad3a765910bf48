import LogTree.Proofs.Declared
import LogTree.Proofs.Documents

/-!
What is written of a configuration is read as the same configuration, up to the floats for which a
notation has no number: one `Reads` statement for each thing a document describes, up to `Blueprint`.
-/
namespace LogTree

namespace Data

/-- A document that a notation can be asked to keep: no null, no whole number beyond 64 bits with sign
and no key twice in a table. -/
inductive IsDocument : Data → Prop
  | bool (value : Bool) : IsDocument (.bool value)
  | int (value : Int64) : IsDocument (.int value.toInt)
  | float (value : Float) : IsDocument (.float value)
  | string (text : String) : IsDocument (.string text)
  | array {items : List Data} (each : ∀ d ∈ items, IsDocument d) : IsDocument (.array items)
  | table {entries : List (String × Data)} (distinct : (entries.map Prod.fst).Nodup)
      (each : ∀ e ∈ entries, IsDocument e.2) : IsDocument (.table entries)

theorem isReadable_stored (keeps : Float → Bool) {d : Data} (doc : d.IsDocument) :
    (d.stored keeps).isReadable = true := by
  induction doc with
  | bool _ => rfl
  | int _ => rfl
  | float x =>
    rw [stored]
    split <;> rfl
  | string _ => rfl
  | array _ ih =>
    rw [stored, isReadable, areReadable_eq_all, storedItems_eq_map]
    simpa using ih
  | table _ _ ih =>
    rw [stored, isReadable, entriesReadable_eq_all, storedEntries_eq_map]
    simpa using ih

theorem depth_stored (keeps : Float → Bool) (d : Data) :
    Config.depth (d.stored keeps) = Config.depth d := by
  induction d using Data.induction with
  | flat d flat =>
    cases d with
    | float x =>
      rw [stored]
      split <;> rfl
    | array _ => contradiction
    | table _ => contradiction
    | _ => rfl
  | array ds ih =>
    rw [stored, Config.depth, Config.depth, Config.depthOfItems_eq_foldr,
      Config.depthOfItems_eq_foldr, storedItems_eq_map, List.map_map]
    rw [List.map_congr_left (f := Config.depth ∘ stored keeps) ih]
  | table es ih =>
    rw [stored, Config.depth, Config.depth, Config.depthOfEntries_eq_foldr,
      Config.depthOfEntries_eq_foldr, storedEntries_eq_map, List.map_map]
    have each : ∀ e ∈ es, ((fun x : String × Data => (x.1, Config.depth x.2)) ∘
        fun e => (e.1, e.2.stored keeps)) e = (e.1, Config.depth e.2) :=
      fun e he => congrArg (Prod.mk e.1) (ih e he)
    rw [List.map_congr_left each]

end Data

namespace Config
open Data

/-! Structures with a kind -/

theorem reads_field {α : Type} {name : String} {read : Data → Option α} {body : Data} {x : α}
    {good : Bool} (reads : Reads read body x good) :
    Reads (PredicateSpec.field? name read) (.table [(name, body)]) x good := by
  intro e same
  have fields : fieldsOf false [name] (.table [(name, body)]) = some ([body].map some) := by
    simp [fieldsOf]
  obtain ⟨_, given, _ | ⟨part, ⟨⟩⟩⟩ := fieldsOf_same same fields
  simp only [PredicateSpec.field?, given, List.map_cons, List.head?_cons, Option.join_some,
    Option.bind_eq_bind, Option.bind_some, required]
  exact reads _ part

theorem kind_same {tag kind : String} {rest : List (String × Data)} {e : Data}
    (apart : ∀ x ∈ rest, x.1 ≠ tag) (same : (Data.table ((tag, .string kind) :: rest)).Same e) :
    ∃ rest', splitKind tag e = some (.string kind, rest') ∧ (Data.table rest).Same rest' := by
  have others : rest.filter (·.1 == tag) = [] := by simpa using apart
  have kept : rest.filter (·.1 != tag) = rest := by simpa using apart
  have split : splitKind tag (.table ((tag, .string kind) :: rest)) =
      some (.string kind, .table rest) := by
    simp [splitKind, others, kept]
  obtain ⟨kind', rest', split, same_kind, same_rest⟩ := splitKind_same same split
  obtain rfl := (same_flat rfl).mp same_kind
  exact ⟨rest', split, same_rest⟩

theorem reads_kind {α β : Type} {tag kind field : String} {read : Data → Option α}
    {whole : Data → Option β} {make : α → β} {body : Data} {x : α} {good : Bool}
    (apart : field ≠ tag) (reads : Reads read body x good)
    (chosen : ∀ e rest, splitKind tag e = some (.string kind, rest) →
      whole e = (PredicateSpec.field? field read rest).map make) :
    Reads whole (.table [(tag, .string kind), (field, body)]) (make x) good := by
  intro e same
  obtain ⟨rest, split, same⟩ := kind_same (by simpa using apart) same
  rw [chosen e rest split, reads_field reads rest same]
  cases good <;> rfl

namespace Scalar

def floats : Scalar → List Float
  | .float x => [x]
  | _ => []

theorem isDocument_data (v : Scalar) : v.data.IsDocument := by
  cases v with
  | bool b => exact .bool b
  | int i => exact .int i
  | float x => exact .float x
  | string s => exact .string s

theorem reads_data (keeps : Float → Bool) (v : Scalar) :
    Reads ofData? (v.data.stored keeps) v (v.floats.all keeps) := by
  cases v with
  | bool b => exact reads_flat rfl rfl
  | string s => exact reads_flat rfl rfl
  | int i =>
    refine reads_flat rfl ?_
    have low : -Int.pow 2 63 ≤ i.toInt := i.le_toInt
    have high : i.toInt < Int.pow 2 63 := i.toInt_lt
    have read : ofData? (.int i.toInt) = some (.int i) := by
      rw [ofData?, decide_eq_true low, decide_eq_true high, Bool.and_true, if_pos rfl,
        Int64.ofInt_toInt]
    exact read
  | float x =>
    rw [data, stored, floats, List.all_cons, List.all_nil, Bool.and_true]
    cases keeps x with
    | true => exact reads_flat rfl rfl
    | false => exact reads_flat rfl rfl

end Scalar

namespace PredicateSpec

def floats : PredicateSpec → List Float
  | .attrValueIs attrs => attrs.entries.flatMap fun e => e.2.floats
  | _ => []

theorem isDocument_data (p : PredicateSpec) : p.data.IsDocument := by
  have levels (ls : List Level) : (levelsData ls).IsDocument :=
    .array (List.forall_mem_map.mpr fun l _ => .string l.name)
  cases p with
  | levelIs ls | levelIsNot ls => exact .table (by simp) (by simp [IsDocument.string, levels])
  | messageIs text | messageIsNot text | messageContains text | messageNotContains text =>
    exact .table (by simp) (by simp [IsDocument.string])
  | attrValueIs attrs =>
    have values : (Data.table (attrs.entries.map fun e => (e.1, e.2.data))).IsDocument :=
      .table (by simpa [Function.comp_def] using attrs.nodup_keys)
        (List.forall_mem_map.mpr fun e _ => e.2.isDocument_data)
    exact .table (by simp) (by simp [IsDocument.string, values])
  | attrKindIs attrs =>
    have kinds : (Data.table (attrs.entries.map fun e => (e.1, .string e.2.name))).IsDocument :=
      .table (by simpa [Function.comp_def] using attrs.nodup_keys)
        (List.forall_mem_map.mpr fun e _ => .string e.2.name)
    exact .table (by simp) (by simp [IsDocument.string, kinds])

theorem reads_levels (keeps : Float → Bool) (levels : List Level) :
    Reads (listOf (choice isNothing Level.ofName?)) ((levelsData levels).stored keeps) levels
      true := by
  have each : ∀ l ∈ levels,
      Reads (choice isNothing Level.ofName?) ((Data.string l.name).stored keeps) l true :=
    fun l _ => reads_flat rfl (by simp [stored, choice, Level.ofName?_name])
  have all := reads_listOf each
  rw [levelsData, stored, storedItems_eq_map, List.map_map]
  rwa [List.all_eq_true.mpr fun _ _ => rfl] at all

theorem reads_string (keeps : Float → Bool) (s : String) :
    Reads asString? ((Data.string s).stored keeps) s true := reads_flat rfl rfl

theorem reads_data (counts : Bool) (keeps : Float → Bool) (p : PredicateSpec) :
    Reads (ofData? counts) (p.data.stored keeps) p (p.floats.all keeps) := by
  cases p with
  | levelIs levels | levelIsNot levels =>
    refine reads_kind (by decide) (reads_levels keeps levels) fun e rest split => ?_
    rw [ofData?, split]
    rfl
  | messageIs text | messageIsNot text | messageContains text | messageNotContains text =>
    refine reads_kind (by decide) (reads_string keeps text) fun e rest split => ?_
    rw [ofData?, split]
    rfl
  | attrValueIs attrs =>
    have values : Reads (dictOf Scalar.ofData?)
        ((Data.table (attrs.entries.map fun e => (e.1, e.2.data))).stored keeps) attrs
        (attrs.entries.all fun e => e.2.floats.all keeps) := by
      rw [stored, storedEntries_eq_map, List.map_map]
      exact reads_dictOf (fun v => v.data.stored keeps) (fun v => v.floats.all keeps)
        fun e _ => Scalar.reads_data keeps e.2
    rw [floats, List.all_flatMap]
    refine reads_kind (by decide) values fun e rest split => ?_
    rw [ofData?, split]
    rfl
  | attrKindIs attrs =>
    have kinds : Reads (dictOf (choice isNothing ValueKind.ofName?))
        ((Data.table (attrs.entries.map fun e => (e.1, .string e.2.name))).stored keeps) attrs
        (attrs.entries.all fun _ => true) := by
      rw [stored, storedEntries_eq_map, List.map_map]
      exact reads_dictOf (fun k : ValueKind => .string k.name) (fun _ => true)
        fun e _ => reads_flat rfl (by simp [choice, ValueKind.ofName?_name])
    rw [List.all_eq_true.mpr fun _ _ => rfl] at kinds
    refine reads_kind (by decide) kinds fun e rest split => ?_
    rw [ofData?, split]
    rfl

end PredicateSpec

namespace Node

mutual

/-- The floats that the predicates of the tree compare with. -/
def floats : Node → List Float
  | .sink _ => []
  | .group _ members => floatsEach members
  | .router routes _ => floatsRoutes routes

def floatsEach : List Node → List Float
  | [] => []
  | n :: rest => floats n ++ floatsEach rest

def floatsRoutes : List (List PredicateSpec × Node) → List Float
  | [] => []
  | (ps, target) :: rest => ps.flatMap PredicateSpec.floats ++ floats target ++ floatsRoutes rest

end

theorem floatsEach_eq_flatMap (ns : List Node) : floatsEach ns = ns.flatMap floats := by
  induction ns with
  | nil => simp [floatsEach]
  | cons n rest ih => simp [floatsEach, ih]

theorem floatsRoutes_eq_flatMap (rs : List (List PredicateSpec × Node)) :
    floatsRoutes rs = rs.flatMap fun r => r.1.flatMap PredicateSpec.floats ++ r.2.floats := by
  induction rs with
  | nil => simp [floatsRoutes]
  | cons r rest ih => simp [floatsRoutes, ih]

theorem dataEach_eq_map (ns : List Node) : dataEach ns = ns.map data := by
  induction ns with
  | nil => simp [dataEach]
  | cons n rest ih => simp [dataEach, ih]

def routeData (r : List PredicateSpec × Node) : Data :=
  .table [("predicates", .array (r.1.map PredicateSpec.data)), ("target", r.2.data)]

theorem dataRoutes_eq_map (rs : List (List PredicateSpec × Node)) :
    dataRoutes rs = rs.map routeData := by
  induction rs with
  | nil => simp [dataRoutes]
  | cons r rest ih => simp [dataRoutes, routeData, ih]

theorem depth_le_of_mem {d : Data} {ds : List Data} (h : d ∈ ds) : depth d ≤ depthOfItems ds := by
  induction ds with
  | nil => contradiction
  | cons e ds ih =>
    rw [depthOfItems]
    rcases List.mem_cons.mp h with rfl | later
    · exact Nat.le_max_left _ _
    · exact Nat.le_trans (ih later) (Nat.le_max_right _ _)

def routeOf? (dialect : Dialect) (below : Data → Option Node) (d : Data) :
    Option (List PredicateSpec × Node) := do
  let parts ← fieldsOf false ["predicates", "target"] d
  let ps ← optional [] (listOf (PredicateSpec.ofData? dialect.countsKinds)) parts.head?.join
  let target ← required below parts[1]?.join
  some (ps, target)

theorem reads_route {dialect : Dialect} {keeps : Float → Bool} {below : Data → Option Node}
    {r : List PredicateSpec × Node}
    (target : Reads below (r.2.data.stored keeps) r.2 (r.2.floats.all keeps)) :
    Reads (routeOf? dialect below) ((routeData r).stored keeps) r
      ((r.1.flatMap PredicateSpec.floats ++ r.2.floats).all keeps) := by
  intro e same
  have predicates : Reads (listOf (PredicateSpec.ofData? dialect.countsKinds))
      ((Data.array (r.1.map PredicateSpec.data)).stored keeps) r.1
      (r.1.all fun p => p.floats.all keeps) := by
    rw [stored, storedItems_eq_map, List.map_map]
    exact reads_listOf fun p _ => PredicateSpec.reads_data dialect.countsKinds keeps p
  have fields : fieldsOf false ["predicates", "target"]
      (.table [("predicates", (Data.array (r.1.map PredicateSpec.data)).stored keeps),
        ("target", r.2.data.stored keeps)]) =
      some ([(Data.array (r.1.map PredicateSpec.data)).stored keeps, r.2.data.stored keeps].map
        some) := rfl
  rw [routeData, stored, storedEntries_eq_map] at same
  obtain ⟨_, given, _ | ⟨first, _ | ⟨second, ⟨⟩⟩⟩⟩ := fieldsOf_same same fields
  rw [routeOf?, given, List.all_append, List.all_flatMap]
  simp only [List.map_cons, List.map_nil, List.head?_cons, Option.join_some, Option.bind_eq_bind,
    Option.bind_some, optional, required, List.getElem?_cons_succ, List.getElem?_cons_zero,
    target _ second, predicates _ first]
  cases r.1.all fun p => p.floats.all keeps <;> cases r.2.floats.all keeps <;> rfl

theorem reads_data (dialect : Dialect) (keeps : Float → Bool) (n : Node) {fuel : Nat}
    (inside : Bool) (enough : depth n.data ≤ fuel) :
    Reads (ofDataWithin dialect fuel inside) (n.data.stored keeps) n (n.floats.all keeps) := by
  induction n using Node.induction generalizing fuel inside with
  | sink name =>
    obtain _ | fuel := fuel
    · simp [data, depth] at enough
    refine reads_kind (by decide) (PredicateSpec.reads_string keeps name) fun e rest split => ?_
    rw [ofDataWithin, split]
    rfl
  | group s members ih =>
    obtain _ | fuel := fuel
    · simp [data, depth] at enough
    have deep : ∀ n ∈ members, depth n.data ≤ fuel := by
      intro n hn
      have inner := depth_le_of_mem (List.mem_map_of_mem (f := data) hn)
      simp only [data, depth, depthOfEntries, dataEach_eq_map] at enough
      omega
    have all : Reads (listOf (ofDataWithin dialect fuel true))
        ((Data.array (dataEach members)).stored keeps) members
        (members.all fun n => n.floats.all keeps) := by
      rw [stored, storedItems_eq_map, dataEach_eq_map, List.map_map]
      exact reads_listOf fun n hn => ih n hn true (deep n hn)
    rw [floats, floatsEach_eq_flatMap, List.all_flatMap]
    refine reads_kind (by decide) all fun e rest split => ?_
    rw [ofDataWithin, split]
    cases s <;> rfl
  | router routes first ih =>
    obtain _ | fuel := fuel
    · simp [data, depth] at enough
    have deep : ∀ r ∈ routes, depth r.2.data ≤ fuel := by
      intro r hr
      have inner := depth_le_of_mem (List.mem_map_of_mem (f := routeData) hr)
      simp only [data, depth, depthOfEntries, dataRoutes_eq_map] at enough
      simp only [routeData, depth, depthOfEntries] at inner
      omega
    have all : Reads (listOf (routeOf? dialect (ofDataWithin dialect fuel true)))
        ((Data.array (dataRoutes routes)).stored keeps) routes
        (routes.all fun r => (r.1.flatMap PredicateSpec.floats ++ r.2.floats).all keeps) := by
      rw [stored, storedItems_eq_map, dataRoutes_eq_map, List.map_map]
      exact reads_listOf fun r hr => reads_route (ih r hr true (deep r hr))
    intro e same
    rw [data, stored, storedEntries_eq_map] at same
    obtain ⟨rest, split, same⟩ := kind_same (by simp) same
    have fields : fieldsOf false ["routes", "first_match"]
        (.table [("routes", (Data.array (dataRoutes routes)).stored keeps),
          ("first_match", .bool first)]) =
        some ([(Data.array (dataRoutes routes)).stored keeps, .bool first].map some) := rfl
    obtain ⟨_, given, _ | ⟨routes', _ | ⟨first', ⟨⟩⟩⟩⟩ := fieldsOf_same same fields
    obtain rfl := (same_flat rfl).mp first'
    have chosen : ofDataWithin dialect (fuel + 1) inside e = (do
        let fields ← fieldsOf false ["routes", "first_match"] rest
        let routes ← required (listOf (routeOf? dialect (ofDataWithin dialect fuel true)))
          fields.head?.join
        let first ← optional false Data.asBool? fields[1]?.join
        some (.router routes first)) := by
      rw [ofDataWithin, split]
      rfl
    rw [chosen, given, floats, floatsRoutes_eq_flatMap, List.all_flatMap]
    simp only [List.map_cons, List.map_nil, List.head?_cons, Option.join_some, Option.bind_eq_bind,
      Option.bind_some, optional, required, List.getElem?_cons_succ, List.getElem?_cons_zero,
      all _ routes', asBool?]
    cases routes.all fun r => (r.1.flatMap PredicateSpec.floats ++ r.2.floats).all keeps <;> rfl

theorem isDocument_data (n : Node) : n.data.IsDocument := by
  induction n using Node.induction with
  | sink name => exact .table (by simp) (by simp [IsDocument.string])
  | group s members ih =>
    have all : (Data.array (dataEach members)).IsDocument := by
      rw [dataEach_eq_map]
      exact .array (List.forall_mem_map.mpr ih)
    exact .table (by simp) (by simp [IsDocument.string, all])
  | router routes first ih =>
    have route : ∀ r ∈ routes, (routeData r).IsDocument := by
      intro r hr
      have predicates : (Data.array (r.1.map PredicateSpec.data)).IsDocument :=
        .array (List.forall_mem_map.mpr fun p _ => p.isDocument_data)
      exact .table (by simp) (by simp [predicates, ih r hr])
    have all : (Data.array (dataRoutes routes)).IsDocument := by
      rw [dataRoutes_eq_map]
      exact .array (List.forall_mem_map.mpr route)
    exact .table (by simp) (by simp [IsDocument.string, IsDocument.bool, all])

theorem reads_whole (dialect : Dialect) (keeps : Float → Bool) (n : Node) :
    Reads (ofData? dialect) (n.data.stored keeps) n (n.floats.all keeps) := by
  intro e same
  have readable : e.isReadable = true :=
    same.isReadable.trans (isReadable_stored keeps n.isDocument_data)
  have deep : depth n.data ≤ depth e :=
    Nat.le_of_eq ((depth_same same).trans (depth_stored keeps _)).symm
  rw [ofData?, if_pos readable]
  exact reads_data dialect keeps n false deep e same

end Node

theorem SinkSpec.isDocument_data (s : SinkSpec) : s.data.IsDocument :=
  .table (by simp) (by simp [IsDocument.string])

theorem SinkSpec.reads_data (dialect : Dialect) (keeps : Float → Bool) (s : SinkSpec) :
    Reads (SinkSpec.ofData? dialect) (s.data.stored keeps) s true := by
  intro e same
  have fields : fieldsOf dialect.skipsSurplus ["name", "sink_type", "min_level"]
      (.table [("name", .string s.name), ("sink_type", .string s.sinkType.name),
        ("min_level", .string s.least.name)]) =
      some ([.string s.name, .string s.sinkType.name, .string s.least.name].map some) := rfl
  rw [SinkSpec.data, stored, storedEntries_eq_map] at same
  obtain ⟨_, given, _ | ⟨name, _ | ⟨kind, _ | ⟨least, ⟨⟩⟩⟩⟩⟩ := fieldsOf_same same fields
  obtain rfl := (same_flat rfl).mp name
  obtain rfl := (same_flat rfl).mp kind
  obtain rfl := (same_flat rfl).mp least
  have kindName : SinkType.ofName? s.sinkType.name = some s.sinkType := by cases s.sinkType <;> rfl
  simp [SinkSpec.ofData?, given, required, optional, asString?, choice, kindName,
    Level.ofName?_name]

namespace Blueprint

def floats (b : Blueprint) : List Float := b.root.floats

theorem isDocument_data (b : Blueprint) : b.data.IsDocument := by
  have sinks : (Data.array (b.sinks.map SinkSpec.data)).IsDocument :=
    .array (List.forall_mem_map.mpr fun s _ => s.isDocument_data)
  exact .table (by simp) (by simp [IsDocument.string, IsDocument.bool, sinks,
    b.root.isDocument_data])

theorem reads_data (dialect : Dialect) (keeps : Float → Bool) (b : Blueprint) :
    Reads (ofData? dialect) (b.data.stored keeps) b (b.floats.all keeps) := by
  intro e same
  have all : Reads (listOf (SinkSpec.ofData? dialect))
      ((Data.array (b.sinks.map SinkSpec.data)).stored keeps) b.sinks (b.sinks.all fun _ => true) := by
    rw [stored, storedItems_eq_map, List.map_map]
    exact reads_listOf fun s _ => s.reads_data dialect keeps
  rw [List.all_eq_true.mpr fun _ _ => rfl] at all
  have fields : fieldsOf dialect.skipsSurplus ["version", "recover", "sinks", "root"]
      (.table [("version", .string b.version.name), ("recover", .bool b.recover),
        ("sinks", (Data.array (b.sinks.map SinkSpec.data)).stored keeps),
        ("root", b.root.data.stored keeps)]) =
      some ([.string b.version.name, .bool b.recover,
        (Data.array (b.sinks.map SinkSpec.data)).stored keeps,
        b.root.data.stored keeps].map some) := rfl
  rw [data, stored, storedEntries_eq_map] at same
  obtain ⟨_, given, _ | ⟨version, _ | ⟨recover, _ | ⟨sinks, _ | ⟨root, ⟨⟩⟩⟩⟩⟩⟩ :=
    fieldsOf_same same fields
  obtain rfl := (same_flat rfl).mp version
  obtain rfl := (same_flat rfl).mp recover
  have versionName : Version.ofName? b.version.name = some b.version := by cases b.version; rfl
  have read := b.root.reads_whole dialect keeps _ root
  rw [ofData?, given, floats]
  simp only [List.map_cons, List.map_nil, List.head?_cons, Option.join_some, Option.bind_eq_bind,
    Option.bind_some, optional, required, List.getElem?_cons_succ, List.getElem?_cons_zero, asBool?,
    choice, versionName, all _ sinks, read, if_true]
  cases b.root.floats.all keeps <;> rfl

end Blueprint

end Config
end LogTree
