import LogTree.Config.Blueprint
import LogTree.Config.Error

/-!
Validation: the first offence against the rules, with its address. Sinks come first, in order, then
the tree from the root down, where the predicates of a route come before its target.
-/
namespace LogTree.Config

inductive Turn where
  | member (i : Nat)
  | target (i : Nat)
  deriving DecidableEq, Repr

def Turn.text : Turn → String
  | .member i => s!".members[{i}]"
  | .target i => s!".routes[{i}].target"

abbrev Address := List Turn

def Address.text (a : Address) : String := "root" ++ String.join (a.map Turn.text)

inductive Offence where
  | emptyName (index : Nat)
  | duplicateName (name : String)
  | undeclared (place : Address) (name : String)
  | noMembers (place : Address) (strategy : Strategy)
  | noRoutes (place : Address)
  | noLevels (place : Address) (route predicate : Nat)
  | noAttrs (place : Address) (route predicate : Nat)
  deriving DecidableEq, Repr

namespace Offence

def field : Offence → String
  | .emptyName i => s!"sinks[{i}].name"
  | .duplicateName name => s!"sinks[name={name}]"
  | .undeclared a _ => a.text ++ ".name"
  | .noMembers a _ => a.text ++ ".members"
  | .noRoutes a => a.text ++ ".routes"
  | .noLevels a i j => a.text ++ s!".routes[{i}].predicates[{j}].levels"
  | .noAttrs a i j => a.text ++ s!".routes[{i}].predicates[{j}].attrs"

def message : Offence → String
  | .emptyName _ => "sink name cannot be empty"
  | .duplicateName _ => "duplicate sink name"
  | .undeclared _ name => s!"sink '{name}' is not declared in [[sinks]]"
  | .noMembers _ strategy => strategy.name ++ " needs at least one member"
  | .noRoutes _ => "router needs at least one route"
  | .noLevels _ _ _ => "levels cannot be empty"
  | .noAttrs _ _ _ => "attrs cannot be empty"

def error (o : Offence) : ConfigError := .validation o.field o.message

end Offence

/-- The first offence of a list of sinks that follows `seen`. -/
def firstSinkOffence (seen : List String) (index : Nat) : List SinkSpec → Option Offence
  | [] => none
  | s :: rest =>
    if s.name == "" then some (.emptyName index)
    else if seen.contains s.name then some (.duplicateName s.name)
    else firstSinkOffence (s.name :: seen) (index + 1) rest

def predicateOffence (a : Address) (route index : Nat) : PredicateSpec → Option Offence
  | .levelIs levels | .levelIsNot levels =>
    if levels.isEmpty then some (.noLevels a route index) else none
  | .attrValueIs attrs => if attrs.isEmpty then some (.noAttrs a route index) else none
  | .attrKindIs attrs => if attrs.isEmpty then some (.noAttrs a route index) else none
  | _ => none

def firstPredicateOffence (a : Address) (route index : Nat) : List PredicateSpec → Option Offence
  | [] => none
  | p :: rest =>
    (predicateOffence a route index p).or (firstPredicateOffence a route (index + 1) rest)

mutual

def firstNodeOffence (names : List String) (a : Address) : Node → Option Offence
  | .sink name => if names.contains name then none else some (.undeclared a name)
  | .group s members =>
    if members.isEmpty then some (.noMembers a s) else firstMemberOffence names a 0 members
  | .router routes _ =>
    if routes.isEmpty then some (.noRoutes a) else firstRouteOffence names a 0 routes

def firstMemberOffence (names : List String) (a : Address) (index : Nat) :
    List Node → Option Offence
  | [] => none
  | n :: rest =>
    (firstNodeOffence names (a ++ [.member index]) n).or
      (firstMemberOffence names a (index + 1) rest)

def firstRouteOffence (names : List String) (a : Address) (index : Nat) :
    List (List PredicateSpec × Node) → Option Offence
  | [] => none
  | (ps, target) :: rest =>
    (firstPredicateOffence a index 0 ps).or
      ((firstNodeOffence names (a ++ [.target index]) target).or
        (firstRouteOffence names a (index + 1) rest))

end

def Blueprint.firstOffence (b : Blueprint) : Option Offence :=
  (firstSinkOffence [] 0 b.sinks).or (firstNodeOffence (b.sinks.map SinkSpec.name) [] b.root)

def Blueprint.validate (b : Blueprint) : Except ConfigError Unit :=
  match b.firstOffence with
  | some o => .error o.error
  | none => .ok ()

end LogTree.Config
