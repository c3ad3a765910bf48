import LogTree.CommandLine.Arguments
import LogTree.Decimal.Read
import LogTree.Level
import LogTree.Logging

/-! The options of the program: what may be given, and what was asked for. -/
namespace LogTree.CommandLine

/-- A text at its first `=`; the key may not be empty. -/
def splitPair (s : String) : Except String (String × String) :=
  let cs := s.toList
  let key := cs.takeWhile (· != '=')
  match key, cs.drop key.length with
  | _ :: _, _ :: value => .ok (String.ofList key, String.ofList value)
  | _, _ => .error s!"expected key=value, got '{s}'"

def word? (limit : Nat) (s : String) : Option Nat :=
  if s.startsWith "-" then none else (Decimal.readInt? 0 (limit - 1) s).map Int.toNat

def port? (s : String) : Option Nat := (Decimal.readInt? 0 65535 s).map Int.toNat

def refuse {α : Type} : Option α → Option UsageError
  | some _ => none
  | none => some .refusedValue

def anyText (_ : String) : Option UsageError := none

def pathText (s : String) : Option UsageError := if s == "" then some .invalidValue else none

def pairText (s : String) : Option UsageError := refuse (splitPair s).toOption

def formatText (s : String) : Option UsageError :=
  if (LogFormat.ofName? s).isSome then none else some .invalidValue

def sharedOptions : List OptionSpec :=
  [⟨"verbose", some 'v', .count fun s => refuse (Decimal.readInt? 0 255 s), some "SINKMUX_VERBOSE"⟩,
    ⟨"quiet", some 'q', .flag, none⟩,
    ⟨"log-format", none, .single formatText, some "SINKMUX_LOG_FORMAT"⟩,
    ⟨"help", some 'h', .help, none⟩]

def configOption : OptionSpec := ⟨"config", some 'c', .single pathText, some "SINKMUX_CONFIG"⟩

def jsonOption : OptionSpec := ⟨"json", none, .flag, none⟩

def emitOptions : List OptionSpec :=
  [⟨"level", some 'l', .single fun s => refuse (Level.parse s).toOption, none⟩,
    ⟨"message", some 'm', .single anyText, none⟩,
    ⟨"attr", none, .repeated pairText, none⟩,
    ⟨"group", none, .repeated anyText, none⟩,
    ⟨"with", none, .repeated pairText, none⟩,
    ⟨"repeat", none, .single fun s => refuse (word? (Nat.pow 2 64) s), none⟩,
    ⟨"metrics-port", none, .single fun s => refuse (port? s), some "SINKMUX_METRICS_PORT"⟩]

def commandNames : List String := ["validate", "info", "emit"]

def programGrammar : Grammar :=
  ⟨sharedOptions ++ [⟨"version", some 'V', .version, none⟩], commandNames ++ ["help"]⟩

def commandGrammar (command : String) : Grammar :=
  ⟨configOption :: jsonOption :: (if command == "emit" then emitOptions else []) ++ sharedOptions,
    []⟩

def helpText : String :=
  "Loads a sink topology from a TOML or JSON file, validates it, prints it\n" ++
  "as a tree, and emits test records through it to see which sinks\n" ++
  "receive them.\n\n" ++
  "Usage: sinkmux [OPTIONS] <COMMAND>\n\n" ++
  "Commands:\n" ++
  "  validate  Validate configuration file\n" ++
  "  info      Display the configured topology\n" ++
  "  emit      Build the topology and send records through it\n" ++
  "  help      Print this message\n"

/-- What is told when arguments are refused, or ask for no command. -/
def usageText : UsageError → String
  | .helpForNothing => helpText
  | .help => helpText
  | .version => "sinkmux 0.1.0\n"
  | .missingCommand => "error: a command is required\n"
  | .unknownCommand => "error: unknown command\n"
  | .unknownOption => "error: unexpected argument\n"
  | .missingOption => "error: a record needs a message\n"
  | .conflict => "error: an argument cannot be used with another one\n"
  | .surplusValue => "error: unexpected value for an option\n"
  | .invalidValue => "error: invalid or missing value for an option\n"
  | .refusedValue => "error: invalid value for an option\n"

structure LookOptions where
  config : String
  json : Bool
  deriving DecidableEq, Repr

structure EmitOptions where
  config : String
  level : Level
  message : String
  attrs : List (String × String)
  groups : List String
  bound : List (String × String)
  rounds : Nat
  metricsPort : Nat
  json : Bool
  deriving DecidableEq, Repr

inductive Command where
  | validate (options : LookOptions)
  | info (options : LookOptions)
  | emit (options : EmitOptions)
  deriving DecidableEq, Repr

structure Invocation where
  verbose : Nat
  quiet : Bool
  logFormat : LogFormat
  command : Command
  deriving DecidableEq, Repr

structure LogSettings where
  format : LogFormat
  filter : String
  /-- A filter of the environment goes before. -/
  readsEnvironment : Bool
  deriving DecidableEq, Repr

def Invocation.logSettings (i : Invocation) : LogSettings :=
  let filter := if i.quiet then "warn" else
    match i.verbose with
    | 0 => "info"
    | 1 => "debug"
    | _ => "trace"
  ⟨i.logFormat, filter, !i.quiet⟩

/-- Quiet and verbose exclude each other within a level. -/
def checkConflicts (m : Matches) : Except UsageError Unit :=
  if m.has "quiet" && m.has "verbose" then .error .conflict else .ok ()

/-- A shared option counts where its source is stronger, and at the command where they are equal. -/
def shared (program command : Matches) (name : String) : Option Found :=
  match program.get? name, command.get? name with
  | some p, some c => if p.source == .commandLine && c.source == .environment then some p else some c
  | some p, none => some p
  | none, c => c

def pairs (m : Matches) (name : String) : List (String × String) :=
  (m.values name).filterMap fun s => (splitPair s).toOption

def configPath (m : Matches) : String := (m.value? "config").getD "sinkmux.toml"

def emitOf (m : Matches) : EmitOptions where
  config := configPath m
  level := ((m.value? "level").bind fun s => (Level.parse s).toOption).getD Level.standard
  message := (m.value? "message").getD ""
  attrs := pairs m "attr"
  groups := m.values "group"
  bound := pairs m "with"
  rounds := ((m.value? "repeat").bind (word? (Nat.pow 2 64))).getD 1
  metricsPort := ((m.value? "metrics-port").bind port?).getD 0
  json := m.has "json"

/-- The options of a command; a record needs a message. -/
def commandOf (name : String) (m : Matches) : Except UsageError Command := do
  checkConflicts m
  match name with
  | "validate" => return .validate ⟨configPath m, m.has "json"⟩
  | "info" => return .info ⟨configPath m, m.has "json"⟩
  | _ => if m.has "message" then return .emit (emitOf m) else throw .missingOption

/-- Help on a command: at most its name may follow. -/
def helpOn : List String → UsageError
  | [] => .help
  | [name] => if (commandNames ++ ["help"]).contains name then .help else .unknownCommand
  | _ => .unknownCommand

def invocation (program command : Matches) (c : Command) : Invocation where
  verbose := ((shared program command "verbose").bind fun f =>
    (f.values.getLast?).bind fun s => (Decimal.readInt? 0 255 s).map Int.toNat).getD 0
  quiet := (shared program command "quiet").isSome
  logFormat := ((shared program command "log-format").bind fun f =>
    f.values.getLast?.bind LogFormat.ofName?).getD .pretty
  command := c

/-- The command's own faults come before those that the program finds at the end. -/
def parse (environment : String → Option String) (args : List String) :
    Except UsageError Invocation := do
  let (program, rest) ← programGrammar.read false .empty args
  match rest with
  | none =>
    let program ← programGrammar.finish environment program
    if program.found.isEmpty then throw .helpForNothing else throw .missingCommand
  | some ("help", names) => throw (helpOn names)
  | some (name, args) =>
    let grammar := commandGrammar name
    let (m, _) ← grammar.read false .empty args
    let m ← grammar.finish environment m
    let c ← commandOf name m
    let program ← programGrammar.finish environment program
    checkConflicts program
    return invocation program m c

end LogTree.CommandLine
