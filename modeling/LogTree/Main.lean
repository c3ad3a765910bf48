import LogTree.CommandLine.Run

/-!
The program: it gathers its arguments, its environment and the files it may need, times the rounds of
an emission, and prints. What it prints is decided elsewhere.
-/
namespace LogTree.CommandLine
open Config

/-- Codes of the system may come negated. -/
def systemCode (code : UInt32) : Nat := min code.toNat (Nat.pow 2 32 - code.toNat)

def fileError : IO.Error → FileError
  | .noFileOrDirectory .. => .missing
  | .inappropriateType _ code details =>
    match systemCode code with
    | 20 => .notDirectory
    | 21 => .isDirectory
    | n => .other s!"{details} (os error {n})"
  | .permissionDenied _ code details => .other s!"{details} (os error {systemCode code})"
  | e => .other (toString e)

def readFile (path : String) : IO (Except FileError ByteArray) := do
  match ← (IO.FS.readBinFile path).toBaseIO with
  | .ok bytes => return .ok bytes
  | .error e => return .error (fileError e)

/-- Every word of a file of variables may be the name of one. -/
def variableNames (file : Except FileError ByteArray) : List String :=
  let words := match file with
    | .ok bytes =>
      (Environment.readableStart bytes).split (fun c => !Environment.isName c) |>.toStringList
    | .error _ => []
  (configOption :: sharedOptions ++ emitOptions).filterMap OptionSpec.environmentName ++ words

def readVariables (names : List String) : IO Environment := do
  let found ← names.mapM fun name => do return (← IO.getEnv name).map (name, ·)
  return found.filterMap id

/-- Numbers for the sinks that choose at random. -/
def drawsOf (seed : Nat) (n : Nat) : Nat := (stdNext (mkStdGen (seed + 7919 * n))).1

/-- Time by a clock that never goes back. -/
def currentInstant (nanos : Nat) : Instant := ⟨nanos / Nat.pow 10 9, nanos % Nat.pow 10 9⟩

/-- Logs the record as often as asked, and takes the time of each round. -/
def timedRounds (m : Emitter) (now : Instant) : Nat → Tally → IO Tally
  | 0, t => return t
  | n + 1, t => do
    let start ← IO.monoNanosNow
    let result ← IO.lazyPure fun _ => m.round now t.world
    let stop ← IO.monoNanosNow
    timedRounds m now n (t.add result ((stop - start).toFloat / 1000000))

def emitTimed (files : Files) (o : EmitOptions) : IO Answer := do
  match prepare files (drawsOf (← IO.rand 0 (Nat.pow 2 30))) o with
  | .error chain => return ⟨"", chain⟩
  | .ok (m, w) =>
    let t ← timedRounds m (currentInstant (← IO.monoNanosNow)) o.rounds (.start w)
    return (EmitReport.ofTally m t).answer o.json

def runTimed (files : Files) : Command → IO Answer
  | .validate o => return validate files o
  | .info o => return info files o
  | .emit o => emitTimed files o

def Command.config : Command → String
  | .validate o => o.config
  | .info o => o.config
  | .emit o => o.config

def conclude (e : Ending) : IO UInt32 := do
  IO.print e.output
  IO.eprint e.errors
  return e.exitCode.toUInt32

def start (args : List String) : IO UInt32 := do
  let added ← readFile ".env"
  let given ← readVariables (variableNames added)
  match environmentOf (fun _ => added) given with
  | .error p => conclude (.ofPanic p)
  | .ok environment =>
    match parse environment.get? args with
    | .error e => conclude (.ofUsage e)
    | .ok i =>
      let file ← readFile i.command.config
      conclude (.ofAnswer (← runTimed (fun _ => file) i.command))

end LogTree.CommandLine

def main (args : List String) : IO UInt32 := LogTree.CommandLine.start args
