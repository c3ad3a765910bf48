import LogTree.CommandLine.Emit
import LogTree.CommandLine.Environment
import LogTree.Config.File
import LogTree.Config.Outline
import LogTree.Config.Warning

/-! The commands of the program: what each prints, and how it fails. -/
namespace LogTree.CommandLine
open Config

/-- What a command leaves behind. A failure is told from the outside in; none is success. -/
structure Answer where
  output : String
  failure : List String
  deriving DecidableEq, Repr

namespace Answer

def exitCode (a : Answer) : Nat := if a.failure.isEmpty then 0 else 1

def indented (first indent s : String) : String :=
  first ++ ("\n" ++ indent).intercalate (s.splitOn "\n")

def causesText : List String → String
  | [] => ""
  | [cause] => "\n\nCaused by:\n" ++ indented "    " "    " cause
  | causes =>
    "\n\nCaused by:\n" ++ "\n".intercalate (causes.zipIdx.map fun (cause, i) =>
      indented ("".pushn ' ' (5 - (toString i).length) ++ s!"{i}: ") "       " cause)

def failureText (a : Answer) : String :=
  match a.failure with
  | [] => ""
  | first :: causes => "Error: " ++ first ++ causesText causes ++ "\n"

end Answer

structure Finding where
  path : String
  result : Except String Blueprint

def Finding.ofFile (files : Files) (path : String) : Finding where
  path := path
  result :=
    if files.has path then
      match Blueprint.loadFile files path with
      | .ok b => .ok b
      | .error e => .error e.text
    else .error s!"File not found: {path}"

namespace Finding

def summaryData (b : Blueprint) : Data :=
  .table [("version", .string b.version.name), ("root_strategy", .string b.root.strategy),
    ("sink_count", .int b.sinks.length), ("node_count", .int b.root.count),
    ("depth", .int b.root.height), ("recover", .bool b.recover)]

def warningTexts (b : Blueprint) : List String := b.warnings.map Warning.text

def data (f : Finding) : Data :=
  let head (valid : Bool) := [("valid", Data.bool valid), ("config_path", .string f.path)]
  match f.result with
  | .error e => .table (head false ++ [("error", .string e)])
  | .ok b =>
    let warnings := warningTexts b
    .table (head true ++
      (if warnings.isEmpty then [] else [("warnings", .array (warnings.map Data.string))]) ++
      [("summary", summaryData b)])

def warningsText (warnings : List String) : String :=
  if warnings.isEmpty then ""
  else "\n⚠ Warnings:\n" ++ String.join (warnings.map fun w => s!"  - {w}\n")

def text (f : Finding) : String :=
  match f.result with
  | .error e => s!"✗ Configuration is invalid: {f.path}\n\n  Error: {e}\n"
  | .ok b =>
    s!"✓ Configuration is valid: {f.path}\n\n  Version: {b.version.name}\n" ++
      s!"  Root: {b.root.strategy}\n  Sinks: {b.sinks.length}\n" ++
      s!"  Nodes: {b.root.count} (depth {b.root.height})\n  Recover: {b.recover}\n" ++
      warningsText (warningTexts b)

def isValid (f : Finding) : Bool :=
  match f.result with
  | .ok _ => true
  | .error _ => false

end Finding

def validate (files : Files) (o : LookOptions) : Answer :=
  let f := Finding.ofFile files o.config
  ⟨if o.json then Json.pretty f.data ++ "\n" else f.text,
    if f.isValid then [] else ["Configuration validation failed"]⟩

def load (files : Files) (path : String) : Except (List String) Blueprint :=
  if files.has path then
    match Blueprint.loadFile files path with
    | .ok b => .ok b
    | .error e => .error (s!"Failed to load config from {path}" :: e.chain)
  else .error [s!"Configuration file not found: {path}"]

def info (files : Files) (o : LookOptions) : Answer :=
  match load files o.config with
  | .error chain => ⟨"", chain⟩
  | .ok b => ⟨if o.json then Json.pretty b.summary ++ "\n" else b.text, []⟩

/-- The report, and the failure that failed deliveries amount to. -/
def EmitReport.answer (r : EmitReport) (json : Bool) : Answer :=
  ⟨if json then Json.pretty r.data ++ "\n" else r.text,
    if r.failed == 0 then []
    else [s!"Delivery failed for {r.failed} of {r.summary.total} records"]⟩

def prepare (files : Files) (draws : Nat → Nat) (o : EmitOptions) :
    Except (List String) (Emitter × World Unit) := do
  let b ← load files o.config
  let (m, w) := Emitter.ofBlueprint b o (.start () draws)
  return (← m, w)

def emit (files : Files) (draws : Nat → Nat) (now : Instant) (time : Nat → Float)
    (o : EmitOptions) : Answer :=
  match prepare files draws o with
  | .error chain => ⟨"", chain⟩
  | .ok (m, w) =>
    (EmitReport.ofTally m (Tally.run m now time o.rounds (.start w))).answer o.json

def run (files : Files) (draws : Nat → Nat) (now : Instant) (time : Nat → Float) :
    Command → Answer
  | .validate o => validate files o
  | .info o => info files o
  | .emit o => emit files draws now time o

structure Ending where
  exitCode : Nat
  output : String
  errors : String
  deriving DecidableEq, Repr

def Ending.ofAnswer (a : Answer) : Ending := ⟨a.exitCode, a.output, a.failureText⟩

/-- Help and version that were asked for are output; all else is an error. -/
def Ending.ofUsage (e : UsageError) : Ending :=
  if e.exitCode == 0 then ⟨0, usageText e, ""⟩ else ⟨e.exitCode, "", usageText e⟩

def Ending.ofPanic (p : Payload) : Ending := ⟨101, "", p.message ++ "\n"⟩

def environmentOf (files : Files) (given : Environment) : Except Payload Environment :=
  match files ".env" with
  | .ok bytes => given.addBytes bytes
  | .error _ => .ok given

def program (files : Files) (given : Environment) (draws : Nat → Nat) (now : Instant)
    (time : Nat → Float) (args : List String) : Ending :=
  match environmentOf files given with
  | .error p => .ofPanic p
  | .ok environment =>
    match parse environment.get? args with
    | .error e => .ofUsage e
    | .ok i => .ofAnswer (run files draws now time i.command)

end LogTree.CommandLine
