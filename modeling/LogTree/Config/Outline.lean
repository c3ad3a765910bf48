import LogTree.Config.Blueprint
import LogTree.Data
import LogTree.Value.Text

/-!
A tree of labels drawn with one line per node, and the outline of a configuration. A line starts with
one piece per ancestor, which says whether more children of that ancestor follow.
-/
namespace LogTree

inductive Outline where
  | node (label : String) (children : List Outline)

namespace Outline

mutual

/-- The lines of the nodes below one whose own line starts with `indent`. -/
def linesBelow (indent : String) : List Outline → List String
  | [] => []
  | o :: rest => lineAt indent rest.isEmpty o ++ linesBelow indent rest

def lineAt (indent : String) (last : Bool) : Outline → List String
  | .node label children =>
    (indent ++ (if last then "└─ " else "├─ ") ++ label)
      :: linesBelow (indent ++ (if last then "   " else "│  ")) children

end

def lines : Outline → List String
  | .node label children => label :: linesBelow "" children

end Outline

namespace Config

def Scalar.inspect : Scalar → String
  | .string s => Text.quoted s
  | s => s.value.text

def PredicateSpec.text (p : PredicateSpec) : String :=
  let levels (ls : List Level) := "[" ++ ", ".intercalate (ls.map Level.name) ++ "]"
  let pairs (ps : List String) := "\x7b" ++ " ".intercalate ps ++ "\x7d"
  match p with
  | .levelIs ls => "level_is " ++ levels ls
  | .levelIsNot ls => "level_is_not " ++ levels ls
  | .messageIs m => "message_is " ++ Text.quoted m
  | .messageIsNot m => "message_is_not " ++ Text.quoted m
  | .messageContains part => "message_contains " ++ Text.quoted part
  | .messageNotContains part => "message_not_contains " ++ Text.quoted part
  | .attrValueIs attrs =>
    "attr_value_is " ++ pairs (attrs.entries.map fun e => e.1 ++ "=" ++ e.2.inspect)
  | .attrKindIs attrs =>
    "attr_kind_is " ++ pairs (attrs.entries.map fun e => e.1 ++ ":" ++ e.2.title)

namespace Node

/-- What a node says of itself, and under which predicates it is reached. -/
def label (when : List PredicateSpec) (n : Node) : String :=
  let own := match n with
    | .sink name => "sink " ++ name
    | .group s _ => s.name
    | .router _ first => if first then "router (first match)" else "router"
  if when.isEmpty then own
  else own ++ "  when " ++ " and ".intercalate (when.map PredicateSpec.text)

mutual

def outlineWhen (when : List PredicateSpec) : Node → Outline
  | .sink name => .node (label when (.sink name)) []
  | .group s members => .node (label when (.group s members)) (outlineEach members)
  | .router routes first => .node (label when (.router routes first)) (outlineRoutes routes)

def outlineEach : List Node → List Outline
  | [] => []
  | n :: rest => outlineWhen [] n :: outlineEach rest

def outlineRoutes : List (List PredicateSpec × Node) → List Outline
  | [] => []
  | (ps, target) :: rest => outlineWhen ps target :: outlineRoutes rest

end

def outline (n : Node) : Outline := outlineWhen [] n

/-- Only what is there is written. -/
def summaryOf (strategy : String) (name : Option String) (first : Bool)
    (when : List PredicateSpec) (children : List Data) : Data :=
  .table ([("strategy", .string strategy)] ++
    (name.map fun n => ("name", .string n)).toList ++
    (if first then [("first_match", .bool true)] else []) ++
    (if when.isEmpty then [] else [("predicates", .array (when.map fun p => .string p.text))]) ++
    (if children.isEmpty then [] else [("children", .array children)]))

mutual

def summaryWhen (when : List PredicateSpec) : Node → Data
  | .sink name => summaryOf "sink" (some name) false when []
  | .group s members => summaryOf s.name none false when (summaryEach members)
  | .router routes first => summaryOf "router" none first when (summaryRoutes routes)

def summaryEach : List Node → List Data
  | [] => []
  | n :: rest => summaryWhen [] n :: summaryEach rest

def summaryRoutes : List (List PredicateSpec × Node) → List Data
  | [] => []
  | (ps, target) :: rest => summaryWhen ps target :: summaryRoutes rest

end

end Node

def SinkSpec.summary (s : SinkSpec) : Data :=
  .table [("name", .string s.name), ("sink_type", .string s.sinkType.title),
    ("min_level", .string s.least.name)]

/-- A blueprint as a document to be read by people: predicates are texts. -/
def Blueprint.summary (b : Blueprint) : Data :=
  .table [("version", .string b.version.name), ("recover", .bool b.recover),
    ("sinks", .array (b.sinks.map SinkSpec.summary)), ("root", b.root.summaryWhen [])]

/-- Every line but the last has the first mark. -/
def marked (marks : String × String) : List String → List String
  | [] => []
  | [line] => [marks.2 ++ line]
  | line :: rest => (marks.1 ++ line) :: marked marks rest

def SinkSpec.text (s : SinkSpec) : String :=
  s!"{s.name} ({s.sinkType.title}, min level {s.least.name})"

def banner : String :=
  "╔══════════════════════════════════════════════════════════════╗\n" ++
  "║                  sinkmux Topology                            ║\n" ++
  "╚══════════════════════════════════════════════════════════════╝\n"

def Blueprint.text (b : Blueprint) : String :=
  let line (s : String) := s ++ "\n"
  banner ++ "\n" ++
    "⚙️  Settings\n" ++ s!"   ├─ Version: {b.version.name}\n" ++ s!"   └─ Recover: {b.recover}\n" ++
    s!"\n📤 Sinks ({b.sinks.length})\n" ++
    String.join ((marked ("   ├─ ", "   └─ ") (b.sinks.map SinkSpec.text)).map line) ++
    "\n🌳 Topology\n" ++
    String.join (b.root.outline.lines.map fun s => line ("   " ++ s)) ++ "\n"

end Config
end LogTree
