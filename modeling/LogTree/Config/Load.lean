import LogTree.Config.Decode
import LogTree.Config.Encode
import LogTree.Config.Validate
import LogTree.Json.Read
import LogTree.Json.Write
import LogTree.Text.Lowercase
import LogTree.Toml.Read
import LogTree.Toml.Write

/-! Configurations as text: which notation an ending stands for, reading with validation, writing. -/
namespace LogTree.Config

inductive Format where
  | toml
  | json
  deriving DecidableEq, Repr, Inhabited

namespace Format

/-- Endings count in any case. -/
def ofEnding? (ending : String) : Option Format :=
  match Text.lowercase ending with
  | "toml" => some .toml
  | "json" => some .json
  | _ => none

def title : Format → String
  | .toml => "TOML"
  | .json => "JSON"

def dialect : Format → Dialect
  | .toml => .toml
  | .json => .json

/-- What stands in an error for the words of a reader. -/
def detail : String := "<detail>"

def parseError (f : Format) : ConfigError := .parse (f.title ++ " parse error: " ++ detail)

def read? : Format → String → Option Data
  | .toml, s => Toml.parse? s
  | .json, s => Json.parse? s

end Format

def Blueprint.parse (f : Format) (s : String) : Except ConfigError Blueprint :=
  match (f.read? s).bind (Blueprint.ofData? f.dialect) with
  | some b => .ok b
  | none => .error f.parseError

def Blueprint.load (f : Format) (s : String) : Except ConfigError Blueprint := do
  let b ← Blueprint.parse f s
  b.validate
  .ok b

def Blueprint.toJson (b : Blueprint) : String := Json.pretty b.data

def Blueprint.toToml (b : Blueprint) : String := Toml.pretty b.data

end LogTree.Config
