/-!
Arguments of a command line, level by level: the program's own options, then a command with options of
its own. A value may follow its option or be attached to it; it is checked when the next option is met
or the arguments end, so an earlier fault is not always the one that is told.
-/
namespace LogTree

/-- Why arguments are refused, or answered by a text of their own. -/
inductive UsageError where
  | helpForNothing
  | help
  | version
  | missingCommand
  | unknownCommand
  | unknownOption
  | missingOption
  | conflict
  | surplusValue
  | invalidValue
  | refusedValue
  deriving DecidableEq, Repr

def UsageError.title : UsageError → String
  | .helpForNothing => "DisplayHelpOnMissingArgumentOrSubcommand"
  | .help => "DisplayHelp"
  | .version => "DisplayVersion"
  | .missingCommand => "MissingSubcommand"
  | .unknownCommand => "InvalidSubcommand"
  | .unknownOption => "UnknownArgument"
  | .missingOption => "MissingRequiredArgument"
  | .conflict => "ArgumentConflict"
  | .surplusValue => "TooManyValues"
  | .invalidValue => "InvalidValue"
  | .refusedValue => "ValueValidation"

def UsageError.exitCode : UsageError → Nat
  | .help => 0
  | .version => 0
  | _ => 2

/-- What an option does. A check gives the fault of a value. -/
inductive OptionKind where
  | help
  | version
  /-- May be given again and again. -/
  | count (check : String → Option UsageError)
  | flag
  | single (check : String → Option UsageError)
  | repeated (check : String → Option UsageError)

def OptionKind.takesValue : OptionKind → Bool
  | .single _ => true
  | .repeated _ => true
  | _ => false

structure OptionSpec where
  name : String
  short : Option Char
  kind : OptionKind
  /-- The variable of the environment that stands in for the option. -/
  environmentName : Option String

/-- Where a value comes from; the command line outweighs the environment. -/
inductive Source where
  | environment
  | commandLine
  deriving DecidableEq, Repr

structure Found where
  source : Source
  values : List String
  deriving DecidableEq, Repr

/-- An option whose value is not checked yet, or has not come yet. -/
structure Pending where
  spec : OptionSpec
  value : Option String

structure Matches where
  found : List (String × Found)
  pending : Option Pending

namespace Matches

def empty : Matches := ⟨[], none⟩

def get? (m : Matches) (name : String) : Option Found :=
  (m.found.find? (·.1 == name)).map Prod.snd

def has (m : Matches) (name : String) : Bool := (m.get? name).isSome

def value? (m : Matches) (name : String) : Option String :=
  (m.get? name).bind fun f => f.values.getLast?

def values (m : Matches) (name : String) : List String := ((m.get? name).map Found.values).getD []

def put (m : Matches) (name : String) (f : Found) : Matches :=
  { m with found := (name, f) :: m.found.filter (·.1 != name) }

/-- How often an option was given; a count is kept as one number. -/
def timesGiven (m : Matches) (name : String) : Nat := ((m.value? name).bind String.toNat?).getD 0

def checked (check : String → Option UsageError) (v : String) (m : Matches) :
    Except UsageError Matches :=
  match check v with
  | some e => .error e
  | none => .ok m

def accept (m : Matches) (source : Source) (spec : OptionSpec) (value : Option String) :
    Except UsageError Matches :=
  match spec.kind, value with
  | .help, _ => .error .help
  | .version, _ => .error .version
  | .count check, some v => checked check v (m.put spec.name ⟨source, [v]⟩)
  | .count _, none =>
    .ok (m.put spec.name ⟨source, [toString (min 255 (m.timesGiven spec.name + 1))]⟩)
  | .flag, _ => if m.has spec.name then .error .conflict else .ok (m.put spec.name ⟨source, []⟩)
  | .single _, none => .error .invalidValue
  | .single check, some v =>
    if m.has spec.name then .error .conflict
    else checked check v (m.put spec.name ⟨source, [v]⟩)
  | .repeated _, none => .error .invalidValue
  | .repeated check, some v =>
    checked check v (m.put spec.name ⟨source, m.values spec.name ++ [v]⟩)

def settle (m : Matches) : Except UsageError Matches :=
  match m.pending with
  | none => .ok m
  | some p => accept { m with pending := none } .commandLine p.spec p.value

def take (m : Matches) (spec : OptionSpec) (value : Option String) : Except UsageError Matches := do
  (← m.settle).accept .commandLine spec value

def await (m : Matches) (spec : OptionSpec) : Except UsageError Matches := do
  return { ← m.settle with pending := some ⟨spec, none⟩ }

def expectsValue (m : Matches) : Bool := m.pending.any fun p => p.value.isNone

def giveValue (m : Matches) (v : String) : Matches :=
  { m with pending := m.pending.map fun p => { p with value := some v } }

end Matches

inductive Shape where
  /-- No options from here on. -/
  | escape
  | long (body : List Char)
  | shorts (body : List Char)
  | plain

structure Grammar where
  options : List OptionSpec
  commands : List String

namespace Grammar

def long? (g : Grammar) (name : String) : Option OptionSpec := g.options.find? (·.name == name)

def short? (g : Grammar) (c : Char) : Option OptionSpec := g.options.find? (·.short == some c)

/-- What stands after two dashes, and the value after `=`. -/
def readLong (g : Grammar) (m : Matches) (body : List Char) : Except UsageError Matches :=
  let name := String.ofList (body.takeWhile (· != '='))
  let value := match body.dropWhile (· != '=') with
    | [] => none
    | _ :: v => some (String.ofList v)
  match g.long? name with
  | none => .error .unknownOption
  | some spec =>
    if spec.kind.takesValue then
      match value with
      | some v => m.take spec (some v)
      | none => m.await spec
    else if value.isSome then .error .surplusValue
    else m.take spec none

/-- Letters after one dash; the first option with a value takes the rest. -/
def readShorts (g : Grammar) (m : Matches) : List Char → Except UsageError Matches
  | [] => .ok m
  | c :: rest =>
    match g.short? c with
    | none => .error .unknownOption
    | some spec =>
      if spec.kind.takesValue then
        match rest with
        | [] => m.await spec
        | '=' :: v => m.take spec (some (String.ofList v))
        | v => m.take spec (some (String.ofList v))
      else do readShorts g (← m.take spec none) rest

/-- No argument stands on its own, so one that is no command is refused. -/
def stray (g : Grammar) (trailing : Bool) (a : String) : UsageError :=
  if g.commands.isEmpty || (trailing && g.commands.contains a) then .unknownOption
  else .unknownCommand

/-- Two dashes alone end the options; a single dash is plain. -/
def shape (a : String) : Shape :=
  match a.toList with
  | ['-', '-'] => .escape
  | '-' :: '-' :: body => .long body
  | '-' :: c :: body => .shorts (c :: body)
  | _ => .plain

/-- Reads up to a command; also the command and what follows it. -/
def read (g : Grammar) (trailing : Bool) (m : Matches) :
    List String → Except UsageError (Matches × Option (String × List String))
  | [] => .ok (m, none)
  | a :: rest => do
    if trailing then .error (g.stray true a)
    else if !m.expectsValue && g.commands.contains a then .ok (m, some (a, rest))
    else
      match shape a with
      | .escape => read g true m rest
      | .long body => read g false (← g.readLong m body) rest
      | .shorts body => read g false (← g.readShorts m body) rest
      | .plain =>
        if m.expectsValue then read g false (m.giveValue a) rest else .error (g.stray false a)

/-- Options that were not given take their values from the environment. -/
def addEnvironment (g : Grammar) (environment : String → Option String) (m : Matches) :
    Except UsageError Matches :=
  g.options.foldlM (fun m spec =>
    if m.has spec.name then .ok m
    else
      match spec.environmentName.bind environment with
      | some v => m.accept .environment spec (some v)
      | none => .ok m) m

def finish (g : Grammar) (environment : String → Option String) (m : Matches) :
    Except UsageError Matches := do
  g.addEnvironment environment (← m.settle)

end Grammar

end LogTree
