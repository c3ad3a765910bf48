import LogTree.Level

/-! Events that sinks report beside their answers, by cause. -/
namespace LogTree

inductive Event where
  | logged (level : Level) (sink attrs message : String)
  | panicked (sink text : String)
  | memberFailed (sink error : String)
  | triedNext (sink error : String)
  | noRoute (message : String)
  | winnerDisabled (sink : String) (level : Level)
  | notRouted (sink message : String)
  | recovered (level : Level) (message error : String)
  | leafCreated (sink : String)
  | treeBuilt (leaves : Nat)
  deriving DecidableEq, Repr

namespace Event

def level : Event → Level
  | .logged l _ _ _ => l
  | .panicked _ _ | .memberFailed _ _ => .warn
  | .triedNext _ _ | .leafCreated _ => .debug
  | .noRoute _ | .winnerDisabled _ _ | .notRouted _ _ => .trace
  | .recovered _ _ _ => .error
  | .treeBuilt _ => .info

/-- The part of the program that reports the event. -/
def origin : Event → String
  | .logged _ _ _ _ => "dispatcher::sinks::log"
  | .panicked _ _ => "dispatcher::fault"
  | .memberFailed _ _ => "dispatcher::fanout"
  | .triedNext _ _ => "dispatcher::failover"
  | .noRoute _ | .winnerDisabled _ _ => "dispatcher::first_match"
  | .notRouted _ _ => "dispatcher::routable"
  | .recovered _ _ _ => "dispatcher::recover"
  | .leafCreated _ | .treeBuilt _ => "dispatcher::topology"

/-- What a log leaf prints; the other events tell what composites do. -/
def isLogged : Event → Bool
  | .logged _ _ _ _ => true
  | _ => false

/-- The message of a record that is named in an event stands in place of the event's own. -/
def fields : Event → List (String × String)
  | .logged _ sink attrs message => [("sink", sink), ("attrs", attrs), ("message", message)]
  | .panicked sink text =>
    [("sink", sink), ("panic", text), ("message", "Sink panicked while handling record")]
  | .memberFailed sink error =>
    [("sink", sink), ("error", error), ("message", "Fanout child failed")]
  | .triedNext sink error =>
    [("sink", sink), ("error", error), ("message", "Sink failed, trying next")]
  | .noRoute message => [("message", message)]
  | .winnerDisabled sink level =>
    [("sink", sink), ("level", level.name), ("message", "Matched route disabled, dropping")]
  | .notRouted sink message => [("sink", sink), ("message", message)]
  | .recovered level message error =>
    [("level", level.name), ("message", message), ("error", error)]
  | .leafCreated sink => [("sink", sink), ("message", "Leaf sink created")]
  | .treeBuilt leaves => [("leaves", toString leaves), ("message", "Topology built")]

end Event
end LogTree
