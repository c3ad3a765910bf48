import LogTree.Text.Lowercase

/-! How the program's own log is laid out. -/
namespace LogTree

inductive LogFormat where
  | json
  | pretty
  | compact
  deriving DecidableEq, Repr, Inhabited

namespace LogFormat

def all : List LogFormat := [.json, .pretty, .compact]

def name : LogFormat → String
  | .json => "json"
  | .pretty => "pretty"
  | .compact => "compact"

def title : LogFormat → String
  | .json => "Json"
  | .pretty => "Pretty"
  | .compact => "Compact"

/-- Exact names only. -/
def ofName? (s : String) : Option LogFormat := all.find? (·.name == s)

/-- Names in any case. -/
def parse (s : String) : Except String LogFormat :=
  let lowered := Text.lowercase s
  match ofName? lowered with
  | some f => .ok f
  | none => .error s!"unknown log format: {lowered}"

end LogFormat

end LogTree
