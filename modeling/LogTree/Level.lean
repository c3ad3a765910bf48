import LogTree.Text.Lowercase

/-! Severity of a record, least severe first. -/
namespace LogTree

inductive Level where
  | trace
  | debug
  | info
  | warn
  | error
  deriving DecidableEq, Repr, Inhabited

namespace Level

def all : List Level := [.trace, .debug, .info, .warn, .error]

theorem mem_all (l : Level) : l ∈ all := by cases l <;> simp [all]

/-- The level of a sink or a command that names none. -/
def standard : Level := .info

def severity : Level → Nat
  | .trace => 0
  | .debug => 1
  | .info => 2
  | .warn => 3
  | .error => 4

instance : LE Level := ⟨fun a b => a.severity ≤ b.severity⟩

instance (a b : Level) : Decidable (a ≤ b) := inferInstanceAs (Decidable (a.severity ≤ b.severity))

def name : Level → String
  | .trace => "trace"
  | .debug => "debug"
  | .info => "info"
  | .warn => "warn"
  | .error => "error"

/-- Exact names only. -/
def ofName? (s : String) : Option Level := all.find? (·.name == s)

theorem ofName?_name (l : Level) : ofName? l.name = some l := by cases l <;> decide

/-- Names in any case, and `warning`. A refusal carries the lower-case text. -/
def parse (s : String) : Except String Level :=
  let lowered := Text.lowercase s
  if lowered == "warning" then .ok .warn
  else match ofName? lowered with
    | some l => .ok l
    | none => .error lowered

theorem le_refl (a : Level) : a ≤ a := Nat.le_refl a.severity

theorem le_trans {a b c : Level} : a ≤ b → b ≤ c → a ≤ c := Nat.le_trans

theorem le_error (a : Level) : a ≤ .error := by cases a <;> decide

end Level
end LogTree
