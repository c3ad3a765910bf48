import LogTree.Config.Blueprint

/-! Measures of a tree, and what may be a mistake in a configuration that is valid. -/
namespace LogTree.Config
namespace Node

mutual

def count : Node → Nat
  | .sink _ => 1
  | .group _ members => countEach members + 1
  | .router routes _ => countTargets routes + 1

def countEach : List Node → Nat
  | [] => 0
  | n :: rest => count n + countEach rest

def countTargets : List (List PredicateSpec × Node) → Nat
  | [] => 0
  | (_, target) :: rest => count target + countTargets rest

end

mutual

/-- The nodes on the longest way down. -/
def height : Node → Nat
  | .sink _ => 1
  | .group _ members => heightOfEach members + 1
  | .router routes _ => heightOfTargets routes + 1

def heightOfEach : List Node → Nat
  | [] => 0
  | n :: rest => max (height n) (heightOfEach rest)

def heightOfTargets : List (List PredicateSpec × Node) → Nat
  | [] => 0
  | (_, target) :: rest => max (height target) (heightOfTargets rest)

end

mutual

/-- The names of the sinks in a tree, from left to right. -/
def references : Node → List String
  | .sink name => [name]
  | .group _ members => referencesOfEach members
  | .router routes _ => referencesOfTargets routes

def referencesOfEach : List Node → List String
  | [] => []
  | n :: rest => references n ++ referencesOfEach rest

def referencesOfTargets : List (List PredicateSpec × Node) → List String
  | [] => []
  | (_, target) :: rest => references target ++ referencesOfTargets rest

end

/-- Picks one route, and no route takes everything. -/
def dropsUnmatched : Node → Bool
  | .router routes true => !routes.any fun r => r.1.isEmpty
  | _ => false

mutual

/-- How many nodes of a tree may find no route for a record. -/
def countDropping : Node → Nat
  | .sink _ => 0
  | .group _ members => countDroppingEach members
  | .router routes first =>
    (if dropsUnmatched (.router routes first) then 1 else 0) + countDroppingTargets routes

def countDroppingEach : List Node → Nat
  | [] => 0
  | n :: rest => countDropping n + countDroppingEach rest

def countDroppingTargets : List (List PredicateSpec × Node) → Nat
  | [] => 0
  | (_, target) :: rest => countDropping target + countDroppingTargets rest

end

end Node

inductive Warning where
  | unused (sink : String)
  | noCatchAll
  | noRecovery
  deriving DecidableEq, Repr

def Warning.text : Warning → String
  | .unused sink => s!"Sink '{sink}' is declared but never used in the topology"
  | .noCatchAll => "first_match router has no catch-all route - unmatched records are dropped"
  | .noRecovery => "recover is disabled - sink failures are only returned to the caller"

/-- Unused sinks in the order of their declaration, then one warning per router, then recovery. -/
def Blueprint.warnings (b : Blueprint) : List Warning :=
  let used := b.root.references
  ((b.sinks.filter fun s => !used.contains s.name).map fun s => .unused s.name) ++
    List.replicate b.root.countDropping .noCatchAll ++
    (if b.recover then [] else [.noRecovery])

end LogTree.Config
