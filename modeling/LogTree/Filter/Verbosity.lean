import LogTree.Decimal.Read

/-! How much of the program's own log passes. -/
namespace LogTree

/-- The least severe line that passes; `off` lets none pass. -/
inductive Verbosity where
  | off
  | error
  | warn
  | info
  | debug
  | trace
  deriving DecidableEq, Repr, Inhabited

namespace Verbosity

def all : List Verbosity := [.off, .error, .warn, .info, .debug, .trace]

def name : Verbosity → String
  | .off => "off"
  | .error => "error"
  | .warn => "warn"
  | .info => "info"
  | .debug => "debug"
  | .trace => "trace"

/-- A name in any case of ASCII letters, or its place in the list without a minus sign. -/
def ofText? (s : String) : Option Verbosity :=
  match Decimal.readInt? 0 5 s with
  | some n => if s.startsWith "-" then none else all[n.toNat]?
  | none => all.find? (·.name == s.map Char.toLower)

end Verbosity
end LogTree
