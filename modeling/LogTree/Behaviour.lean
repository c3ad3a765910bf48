import LogTree.Predicate
import LogTree.World

/-!
What a sink does when it is asked whether it is enabled and when it is handed a record, apart from
how it is built. Composites are functions of the behaviours of their members, whatever those are.
-/
namespace LogTree

inductive Outcome where
  | fine
  | failed (e : SinkError)
  | panicked (p : Payload)

/-- Only handling has the world. Asking is a function of the context and the level: a gate that keeps
state of its own, and answers otherwise when it is asked again, is not represented. -/
structure Behaviour (σ : Type) where
  name : String
  enabled : Context → Level → Except Payload Bool
  handle : Context → Record → World σ → Outcome × World σ

def Outcome.ofResult : Except SinkError Unit → Outcome
  | .ok () => .fine
  | .error e => .failed e

namespace Behaviour
variable {σ : Type}

/-- The fault boundary: a panic comes back as an error that names the sink. -/
def guarded (b : Behaviour σ) (c : Context) (r : Record) (w : World σ) :
    Except SinkError Unit × World σ :=
  match b.handle c r w with
  | (.fine, v) => (.ok (), v)
  | (.failed e, v) => (.error e, v)
  | (.panicked p, v) => (.error (.panic b.name p.message), v.note (.panicked b.name p.message))

/-- Asks in order, up to the first that is enabled. -/
def anyEnabled (c : Context) (l : Level) : List (Behaviour σ) → Except Payload Bool
  | [] => .ok false
  | b :: rest =>
    match b.enabled c l with
    | .ok false => anyEnabled c l rest
    | other => other

/-- Every enabled member gets the record; the failures come back in order. -/
def offerAll (c : Context) (r : Record) :
    List (Behaviour σ) → World σ → Except Payload (List SinkError) × World σ
  | [], w => (.ok [], w)
  | b :: rest, w =>
    match b.enabled c r.level with
    | .error p => (.error p, w)
    | .ok false => offerAll c r rest w
    | .ok true =>
      match b.guarded c r w with
      | (.ok (), v) => offerAll c r rest v
      | (.error e, v) =>
        match offerAll c r rest (v.note (.memberFailed b.name e.text)) with
        | (.ok es, u) => (.ok (e :: es), u)
        | (.error p, u) => (.error p, u)

def fanout (members : List (Behaviour σ)) : Behaviour σ where
  name := "fanout"
  enabled c l := anyEnabled c l members
  handle c r w :=
    match offerAll c r members w with
    | (.ok es, v) => (.ofResult (SinkError.join es), v)
    | (.error p, v) => (.panicked p, v)

/-- Tries enabled members in order up to the first success; else the last error stands. -/
def firstSuccess (c : Context) (r : Record) :
    List (Behaviour σ) → Option SinkError → World σ → Outcome × World σ
  | [], none, w => (.fine, w)
  | [], some e, w => (.failed e, w)
  | b :: rest, last, w =>
    match b.enabled c r.level with
    | .error p => (.panicked p, w)
    | .ok false => firstSuccess c r rest last w
    | .ok true =>
      match b.guarded c r w with
      | (.ok (), v) => (.fine, v)
      | (.error e, v) => firstSuccess c r rest (some e) (v.note (.triedNext b.name e.text))

def failover (members : List (Behaviour σ)) : Behaviour σ where
  name := "failover"
  enabled c l := anyEnabled c l members
  handle c r w := firstSuccess c r members none w

/-- The members from the start on, then those before it. -/
def rotate {α : Type} (start : Nat) (members : List α) : List α :=
  members.drop start ++ members.take start

/-- A drawn start, then as a failover; without members nothing is drawn. -/
def pool (members : List (Behaviour σ)) : Behaviour σ where
  name := "pool"
  enabled c l := anyEnabled c l members
  handle c r w :=
    if members.isEmpty then (.fine, w)
    else
      let (start, v) := w.draw members.length
      firstSuccess c r (rotate start members) none v

end Behaviour

/-- The predicates in front of a route, with the scope they see a record from. -/
structure Guard (σ : Type) where
  predicates : List (Predicate σ)
  scope : Scope
  /-- Whoever holds the route has checked the match. -/
  matched : Bool

namespace Guard
variable {σ : Type}

def ofPredicates (ps : List (Predicate σ)) : Guard σ := ⟨ps, .empty, false⟩

def skipping (g : Guard σ) : Guard σ := { g with matched := true }

def withAttrs (g : Guard σ) (attrs : List Attr) : Guard σ :=
  { g with scope := g.scope.withAttrs attrs }

def withGroup (g : Guard σ) (name : Key) : Guard σ := { g with scope := g.scope.withGroup name }

/-- All predicates hold on the record as the scope shows it. -/
def isMatch (g : Guard σ) (c : Context) (r : Record) (w : World σ) :
    Except Payload Bool × World σ :=
  w.runState (Predicate.allHold c (g.scope.view r) g.predicates)

end Guard

namespace Behaviour
variable {σ : Type}

/-- The match is decided here, not in `enabled`; the target gets the record as it came. -/
def routed (g : Guard σ) (target : Behaviour σ) : Behaviour σ where
  name := target.name
  enabled := target.enabled
  handle c r w :=
    if g.matched then target.handle c r w
    else
      match g.isMatch c r w with
      | (.ok true, v) => target.handle c r v
      | (.ok false, v) => (.fine, v.note (.notRouted target.name r.message))
      | (.error p, v) => (.panicked p, v)

abbrev Route (σ : Type) := Guard σ × Behaviour σ

def firstMatching (c : Context) (r : Record) :
    List (Route σ) → World σ → Except Payload (Option (Route σ)) × World σ
  | [], w => (.ok none, w)
  | route :: rest, w =>
    match route.1.isMatch c r w with
    | (.ok true, v) => (.ok (some route), v)
    | (.ok false, v) => firstMatching c r rest v
    | (.error p, v) => (.error p, v)

/-- A winner that is disabled drops the record; no later route gets it. -/
def firstMatch (routes : List (Route σ)) : Behaviour σ where
  name := "first_match"
  enabled c l := anyEnabled c l (routes.map fun route => routed route.1 route.2)
  handle c r w :=
    match firstMatching c r routes w with
    | (.error p, v) => (.panicked p, v)
    | (.ok none, v) => (.fine, v.note (.noRoute r.message))
    | (.ok (some (g, target)), v) =>
      match target.enabled c r.level with
      | .error p => (.panicked p, v)
      | .ok false => (.fine, v.note (.winnerDisabled target.name r.level))
      | .ok true =>
        let (answer, u) := (routed g target).guarded c r v
        (.ofResult answer, u)

end Behaviour

inductive Recovery (σ : Type) where
  | logging
  | custom (report : Context → Record → SinkError → σ → σ)

def Recovery.run {σ : Type} (c : Context) (r : Record) (e : SinkError) (w : World σ) :
    Recovery σ → World σ
  | .logging => w.note (.recovered r.level r.message e.text)
  | .custom report => { w with state := report c r e w.state }

/-- What a handling hook decides: to answer, or to pass a record on and go on from the answer. -/
inductive Plan where
  | answer (result : Except SinkError Unit)
  | pass (record : Record) (next : Except SinkError Unit → Plan)

/-- A panic below ends the plan. -/
def Plan.run {σ : Type} (handle : Record → World σ → Outcome × World σ) :
    Plan → World σ → Outcome × World σ
  | .answer result, w => (.ofResult result, w)
  | .pass r next, w =>
    match handle r w with
    | (.fine, v) => run handle (next (.ok ())) v
    | (.failed e, v) => run handle (next (.error e)) v
    | (.panicked p, v) => (.panicked p, v)

/-- Hooks of a middleware; one that is missing passes everything on unchanged. They are functions: no
hook keeps state, and none panics, but that the one for levels may answer with a panic. -/
structure Hooks where
  /-- Gets what the next sink would say. -/
  onEnabled : Option (Context → Level → Except Payload Bool → Except Payload Bool)
  /-- Gets the name of the next sink. -/
  onHandle : Option (String → Context → Record → Plan)
  onAttrs : Option (List Attr → List Attr)
  onGroup : Option (Key → Key)

def Hooks.none : Hooks := ⟨.none, .none, .none, .none⟩

namespace Behaviour
variable {σ : Type}

/-- Every failure is reported once, and still returned. -/
def recovered (recovery : Recovery σ) (next : Behaviour σ) : Behaviour σ where
  name := next.name
  enabled := next.enabled
  handle c r w :=
    match next.guarded c r w with
    | (.ok (), v) => (.fine, v)
    | (.error e, v) => (.failed e, recovery.run c r e v)

/-- Every record is counted once, by what became of it. -/
def metered (m : MeterId) (next : Behaviour σ) : Behaviour σ where
  name := next.name
  enabled := next.enabled
  handle c r w :=
    match next.enabled c r.level with
    | .error p => (.panicked p, w)
    | .ok false => (.fine, w.tick m .filtered)
    | .ok true =>
      match next.guarded c r w with
      | (.ok (), v) => (.fine, v.tick m .handled)
      | (.error e, v) => (.failed e, v.tick m .failed)

def hooked (hooks : Hooks) (next : Behaviour σ) : Behaviour σ where
  name := next.name
  enabled c l :=
    match hooks.onEnabled with
    | some hook => hook c l (next.enabled c l)
    | none => next.enabled c l
  handle c r w :=
    match hooks.onHandle with
    | some hook => (hook next.name c r).run (next.handle c) w
    | none => next.handle c r w

end Behaviour
end LogTree
