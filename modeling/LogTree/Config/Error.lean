/-! Why a configuration cannot be used. -/
namespace LogTree.Config

inductive ConfigError where
  | parse (message : String)
  | validation (field message : String)
  | io (message : String)
  | other (message : String)
  deriving DecidableEq, Repr

def ConfigError.text : ConfigError → String
  | .parse message => s!"config parse error: {message}"
  | .validation field message => s!"config validation error at '{field}': {message}"
  | .io message => s!"io error: {message}"
  | .other message => message

def ConfigError.unknownLevel (name : String) : ConfigError := .other s!"unknown level '{name}'"

/-- The error and what lies behind it, outermost first. -/
def ConfigError.chain : ConfigError → List String
  | .io message => [ConfigError.text (.io message), message]
  | e => [e.text]

inductive BuildError where
  | unknownSink (name : String)
  | sinkCreation (name message : String)
  | config (e : ConfigError)
  deriving DecidableEq, Repr

def BuildError.text : BuildError → String
  | .unknownSink name => s!"unknown sink '{name}'"
  | .sinkCreation name message => s!"failed to create sink '{name}': {message}"
  | .config e => "contract error: " ++ e.text

def BuildError.chain : BuildError → List String
  | .config e => BuildError.text (.config e) :: e.chain
  | e => [e.text]

end LogTree.Config
