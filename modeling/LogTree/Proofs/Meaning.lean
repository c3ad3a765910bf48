import LogTree.Config.Warning
import LogTree.Logger
import LogTree.Proofs.Bindings
import Mathlib.Data.List.Infix

/-!
What a configuration means. The tree of nodes says which sinks a record reaches, `Node.reach`, and
from that a sequence of calls has a result, `Blueprint.interpret`, that mentions no tree of sinks and
no scope: the view of a call, `Call.view`, is read off the derivations of its logger.
-/
namespace LogTree
variable {σ : Type}

/-- The starts of rotations that are still to come. -/
abbrev Starts := Nat → Nat

def World.starts (w : World σ) : Starts := fun i => w.draws (w.drawn + i)

/-- What a stretch of a run does: the deliveries it adds, and the starts it leaves. -/
structure World.Adds (w : World σ) (new : List Delivery) (left : Starts) (v : World σ) : Prop where
  deliveries : v.deliveries.toList = w.deliveries.toList ++ new
  starts : v.starts = left

namespace World

theorem adds_nothing (w : World σ) : w.Adds [] w.starts w := ⟨by simp, rfl⟩

theorem adds_note (w : World σ) (e : Event) : w.Adds [] w.starts (w.note e) := ⟨by simp [note], rfl⟩

theorem adds_deliver (w : World σ) (d : Delivery) : w.Adds [d] w.starts (w.deliver d) :=
  ⟨by simp [deliver], rfl⟩

theorem Adds.trans {u v w : World σ} {ds es : List Delivery} {between left : Starts}
    (first : u.Adds ds between v) (second : v.Adds es left w) : u.Adds (ds ++ es) left w where
  deliveries := by rw [second.deliveries, first.deliveries, List.append_assoc]
  starts := second.starts

end World

def Attr.opens (name : Key) : Attr → Bool
  | .mk key (.group _) => key == name
  | _ => false

def Attr.members : Attr → List Attr
  | .mk _ (.group inner) => inner
  | _ => []

/-- Adds inside the first group of each name, or in a new one at the end. -/
def bindUnder : List Key → List Attr → List Attr → List Attr
  | [], actual, new => actual ++ new
  | name :: names, actual, new =>
    actual.takeWhile (!·.opens name) ++
      match actual.dropWhile (!·.opens name) with
      | [] => [.group name (bindUnder names [] new)]
      | found :: after => .group name (bindUnder names found.members new) :: after

theorem splitGroup_eq (name : Key) (actual : List Attr) :
    splitGroup name actual =
      match actual.dropWhile (!·.opens name) with
      | [] => none
      | found :: after => some (actual.takeWhile (!·.opens name), found.members, after) := by
  induction actual with
  | nil => rfl
  | cons a rest ih =>
    obtain ⟨key, value⟩ := a
    have later : (Attr.mk key value).opens name = false →
        (splitGroup name rest).map (fun x => (Attr.mk key value :: x.1, x.2.1, x.2.2)) =
          match (Attr.mk key value :: rest).dropWhile (!·.opens name) with
          | [] => none
          | found :: after =>
            some ((Attr.mk key value :: rest).takeWhile (!·.opens name), found.members, after) := by
      intro other
      simp only [List.dropWhile_cons, List.takeWhile_cons, other, Bool.not_false, if_true, ih]
      cases rest.dropWhile (!·.opens name) <;> rfl
    cases value with
    | group inner =>
      by_cases here : key = name
      · simp [splitGroup, Attr.opens, Attr.members, here]
      · rw [← later (by simpa [Attr.opens] using here)]
        simp [splitGroup, here]
    | _ => exact later rfl

theorem appendUnder_eq_bindUnder (groups : List Key) (actual new : List Attr) :
    appendUnder groups actual new = bindUnder groups actual new := by
  induction groups generalizing actual with
  | nil => rfl
  | cons name rest ih =>
    rw [appendUnder, bindUnder, splitGroup_eq]
    cases found : actual.dropWhile (!·.opens name) with
    | nil =>
      have all : actual.takeWhile (!·.opens name) = actual := by
        simpa [found] using List.takeWhile_append_dropWhile (p := (!·.opens name)) (l := actual)
      simp only [ih, all]
    | cons a after => simp only [ih]

/-- The logger steps over a binding of nothing. -/
def Derivation.binds : Derivation → Bool
  | .attrs as => !as.isEmpty
  | .group _ => true

structure Call where
  path : List Derivation
  time : Instant
  level : Level
  message : String
  attrs : List Attr

namespace Call

def logger (root : Sink σ) (q : Call) : Logger σ := q.path.foldl Logger.derive (.new root)

def log (root : Sink σ) (q : Call) (w : World σ) : Outcome × World σ :=
  (q.logger root).log q.time q.level q.message q.attrs w

def logAll (root : Sink σ) : List Call → World σ → List Outcome × World σ
  | [], w => ([], w)
  | q :: rest, w =>
    let (answer, v) := q.log root w
    let (answers, u) := logAll root rest v
    (answer :: answers, u)

def groups (q : Call) : List Key := (Derivation.opened q.path).filter (· ≠ "")

/-- Each list that is bound goes inside the groups that were open for it. -/
def bound (q : Call) : List Attr :=
  (Derivation.bindings [] (q.path.filter Derivation.binds)).foldl
    (fun actual (names, new) => bindUnder (names.filter (· ≠ "")) actual new) []

/-- The bound attributes, then those of the call inside the open groups. -/
def view (q : Call) : Record :=
  ⟨q.time, q.level, q.message,
    q.bound ++ q.attrs.map fun a => q.groups.foldr (fun name inner => .group name [inner]) a⟩

def record (q : Call) : Record := ⟨q.time, q.level, q.message, q.attrs⟩

def scope (q : Call) : Scope := (q.path.filter Derivation.binds).foldl Scope.derive .empty

theorem opened_binds (path : List Derivation) :
    Derivation.opened (path.filter Derivation.binds) = Derivation.opened path := by
  induction path with
  | nil => rfl
  | cons d rest ih =>
    cases d with
    | group name => exact congrArg (name :: ·) ih
    | attrs as => cases as <;> exact ih

theorem groups_scope (q : Call) : q.scope.groups = q.groups := by
  rw [scope, Scope.groups_derived, opened_binds]
  rfl

theorem attrs_derived (ds : List Derivation) (s : Scope) (before : List Key)
    (open_groups : s.groups = before.filter (· ≠ "")) :
    (ds.foldl Scope.derive s).attrs = (Derivation.bindings before ds).foldl
      (fun actual x => bindUnder (x.1.filter (· ≠ "")) actual x.2) s.attrs := by
  induction ds generalizing s before with
  | nil => rfl
  | cons d ds ih =>
    cases d with
    | attrs as =>
      rw [List.foldl_cons, Scope.derive, ih (s.withAttrs as) before open_groups, Scope.withAttrs,
        appendUnder_eq_bindUnder, open_groups]
      rfl
    | group name =>
      have later : (s.withGroup name).groups = (before ++ [name]).filter (· ≠ "") := by
        rw [Scope.groups_withGroup, open_groups, List.filter_append]
      rw [List.foldl_cons, Scope.derive, ih _ _ later, Scope.attrs_withGroup]
      rfl

theorem attrs_scope (q : Call) : q.scope.attrs = q.bound := attrs_derived _ .empty [] rfl

theorem view_eq (q : Call) : q.view = q.scope.view q.record := by
  rw [view, ← groups_scope, ← attrs_scope]
  rfl

end Call

namespace Config

/-- The sinks that are reached, in order, and the starts that are left. -/
abbrev Reach := Starts → List String × Starts

namespace Reach

def nowhere : Reach := fun starts => ([], starts)

def one (name : String) : Reach := fun starts => ([name], starts)

def all : List Reach → Reach
  | [] => nowhere
  | first :: rest => fun starts =>
    let (names, left) := first starts
    let (others, left) := all rest left
    (names ++ others, left)

/-- The first that accepts, whatever becomes of the record there. -/
def firstOf (offers : List (Bool × Reach)) : Reach :=
  ((offers.find? Prod.fst).map Prod.snd).getD nowhere

/-- The same from the next start on; where none accepts no start is used. -/
def fromStart (offers : List (Bool × Reach)) : Reach := fun starts =>
  let start := starts 0 % offers.length
  if offers.any Prod.fst then
    firstOf (offers.drop start ++ offers.take start) fun i => starts (i + 1)
  else ([], starts)

end Reach

def PredicateSpec.holds (v : Record) : PredicateSpec → Bool
  | .levelIs levels => levels.contains v.level
  | .levelIsNot levels => !levels.contains v.level
  | .messageIs message => v.message == message
  | .messageIsNot message => !(v.message == message)
  | .messageContains part => part.toList <:+: v.message.toList
  | .messageNotContains part => ¬ part.toList <:+: v.message.toList
  | .attrValueIs attrs =>
    attrs.entries.all fun e => (visits v.attrs).any fun x => e.1 == x.path && e.2.value == x.value
  | .attrKindIs attrs =>
    attrs.entries.all fun e => (visits v.attrs).any fun x => e.1 == x.path && e.2 == x.value.kind

namespace Node

def accepts (least? : String → Option Level) (level : Level) (n : Node) : Bool :=
  n.references.any fun name => (least? name).any fun least => least ≤ level

section
variable (least? : String → Option Level) (v : Record)

mutual

/-- Where a record goes that is seen as `v`. -/
def reach : Node → Reach
  | .sink name => if (Node.sink name).accepts least? v.level then .one name else .nowhere
  | .group .fanout members => .all ((offers members).map Prod.snd)
  | .group .failover members => .firstOf (offers members)
  | .group .pool members => .fromStart (offers members)
  | .router routes true => (matching routes).head?.getD .nowhere
  | .router routes false => .all (matching routes)

def offers : List Node → List (Bool × Reach)
  | [] => []
  | n :: rest => (n.accepts least? v.level, reach n) :: offers rest

def matching : List (List PredicateSpec × Node) → List Reach
  | [] => []
  | (ps, target) :: rest =>
    if ps.all (PredicateSpec.holds v) then reach target :: matching rest else matching rest

end

end
end Node

namespace Blueprint

def least? (b : Blueprint) (name : String) : Option Level :=
  (b.sinks.find? (·.name == name)).map SinkSpec.least

def reach (b : Blueprint) (v : Record) : Reach := b.root.reach b.least? v

/-- What the calls leave behind: which sink gets which record, in order. -/
def interpret (b : Blueprint) : List Call → Starts → List (String × Record)
  | [], _ => []
  | q :: rest, starts =>
    let (names, left) := b.reach q.view starts
    names.map (·, q.view) ++ interpret b rest left

end Blueprint

def recordsOf (name : String) (entries : List (String × Record)) : List Record :=
  entries.filterMap fun e => if e.1 = name then some e.2 else none

end Config
end LogTree
