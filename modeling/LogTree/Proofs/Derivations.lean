import LogTree.Logger
import LogTree.Proofs.Tree

/-!
Derivations compose. Binding twice binds the joined list once, in a scope and so in every tree. A logger
may leave out the steps that bind or open nothing, and may bind at once what is bound step by step. Main
statement: `derivations_compose`.
-/
namespace LogTree
variable {σ : Type}

theorem splitGroup_before {name : Key} {attrs pre inner post : List Attr}
    (found : splitGroup name attrs = some (pre, inner, post)) : splitGroup name pre = none := by
  induction attrs generalizing pre inner post with
  | nil => simp [splitGroup] at found
  | cons a rest ih =>
    obtain ⟨key, v⟩ := a
    cases v with
    | group as =>
      simp only [splitGroup] at found
      split at found
      · obtain ⟨rfl, -, -⟩ := by simpa using found
        rfl
      · rename_i other
        obtain ⟨⟨_, _, _⟩, deeper, same⟩ := Option.map_eq_some_iff.mp found
        obtain ⟨rfl, -, -⟩ := by simpa using same
        simp only [splitGroup, if_neg other, ih deeper, Option.map_none]
    | _ =>
      obtain ⟨⟨_, _, _⟩, deeper, same⟩ := Option.map_eq_some_iff.mp found
      obtain ⟨rfl, -, -⟩ := by simpa using same
      simp only [splitGroup, ih deeper, Option.map_none]

/-- What stands behind attributes without the group, and is the group, is the one that is found. -/
theorem splitGroup_behind {name : Key} {pre : List Attr} (none : splitGroup name pre = none)
    (inner post : List Attr) :
    splitGroup name (pre ++ .group name inner :: post) = some (pre, inner, post) := by
  induction pre with
  | nil => simp [splitGroup, Attr.group]
  | cons a rest ih =>
    obtain ⟨key, v⟩ := a
    cases v with
    | group as =>
      simp only [splitGroup] at none
      split at none
      · contradiction
      · rename_i other
        simp only [List.cons_append, splitGroup, if_neg other, ih (Option.map_eq_none_iff.mp none),
          Option.map_some]
    | _ =>
      simp only [List.cons_append, splitGroup, ih (Option.map_eq_none_iff.mp none),
        Option.map_some]

/-- The second list goes into the very groups that the first one was put into, or that it opened. -/
theorem appendUnder_append (path : List Key) (actual as bs : List Attr) :
    appendUnder path (appendUnder path actual as) bs = appendUnder path actual (as ++ bs) := by
  induction path generalizing actual with
  | nil => simp only [appendUnder, List.append_assoc]
  | cons name path ih =>
    cases found : splitGroup name actual with
    | some parts =>
      obtain ⟨pre, inner, post⟩ := parts
      have again := splitGroup_behind (splitGroup_before found) (appendUnder path inner as) post
      simp only [appendUnder, found, again, ih]
    | none =>
      have again := splitGroup_behind found (appendUnder path [] as) []
      simp only [appendUnder, found, again, ih]

theorem Scope.withAttrs_append (s : Scope) (as bs : List Attr) :
    (s.withAttrs as).withAttrs bs = s.withAttrs (as ++ bs) := by
  simp only [Scope.withAttrs, appendUnder_append]

namespace Sink

theorem plain_withAttrs {s : Sink σ} (plain : DerivesPlainly s) (as : List Attr) :
    DerivesPlainly (s.withAttrs as) := by
  rw [withAttrs_eq_rescope as s fun h hp => (plain h hp).1]
  exact derivesPlainly_rescope plain _

theorem plain_withGroup {s : Sink σ} (plain : DerivesPlainly s) (name : Key) :
    DerivesPlainly (s.withGroup name) := by
  by_cases named : name = ""
  · subst named
    rwa [withGroup_empty]
  · rw [withGroup_eq_rescope named s fun h hp => (plain h hp).2]
    exact derivesPlainly_rescope plain _

theorem withAttrs_append {s : Sink σ} (plain : DerivesPlainly s) (as bs : List Attr) :
    (s.withAttrs as).withAttrs bs = s.withAttrs (as ++ bs) := by
  rw [withAttrs_eq_rescope bs _ fun h hp => (plain_withAttrs plain as h hp).1,
    withAttrs_eq_rescope as s fun h hp => (plain h hp).1,
    withAttrs_eq_rescope (as ++ bs) s fun h hp => (plain h hp).1, rescope_rescope]
  exact congrArg (s.rescope ·) (funext fun scope => scope.withAttrs_append as bs)

end Sink

namespace Derivation

def isIdle : Derivation → Bool
  | .attrs as => as.isEmpty
  | .group name => name == ""

def isBinding : Derivation → Bool
  | .attrs _ => true
  | .group _ => false

/-- A step before others; a binding before a binding becomes one with it. -/
def join : Derivation → List Derivation → List Derivation
  | .attrs as, .attrs bs :: rest => .attrs (as ++ bs) :: rest
  | d, rest => d :: rest

/-- Without idle steps, and with bindings that follow each other joined. -/
def condense : List Derivation → List Derivation
  | [] => []
  | d :: rest => if d.isIdle then condense rest else d.join (condense rest)

structure Condensed (ds : List Derivation) : Prop where
  busy : ∀ d ∈ ds, d.isIdle = false
  apart : ds.IsChain fun d e => (d.isBinding && e.isBinding) = false

theorem condensed_join {d : Derivation} {ds : List Derivation} (busy : d.isIdle = false)
    (condensed : Condensed ds) : Condensed (d.join ds) := by
  obtain ⟨others, apart⟩ := condensed
  unfold join
  split
  · rename_i as bs rest
    obtain ⟨_, later⟩ := List.forall_mem_cons.mp others
    refine ⟨List.forall_mem_cons.mpr ⟨?_, later⟩, ?_⟩
    · simp only [isIdle, List.isEmpty_eq_false_iff] at busy ⊢
      exact List.append_ne_nil_of_left_ne_nil busy bs
    · cases rest with
      | nil => exact .singleton _
      | cons e rest =>
        obtain ⟨here, apart⟩ := List.isChain_cons_cons.mp apart
        exact List.isChain_cons_cons.mpr ⟨here, apart⟩
  · rename_i separate
    refine ⟨List.forall_mem_cons.mpr ⟨busy, others⟩, ?_⟩
    cases ds with
    | nil => exact .singleton _
    | cons e rest =>
      refine List.isChain_cons_cons.mpr ⟨?_, apart⟩
      cases d with
      | group _ => rfl
      | attrs as =>
        cases e with
        | group _ => rfl
        | attrs bs => exact absurd rfl (separate as bs rest rfl)

theorem condensed_condense (ds : List Derivation) : Condensed (condense ds) := by
  induction ds with
  | nil => exact ⟨fun _ h => absurd h List.not_mem_nil, .nil⟩
  | cons d ds ih =>
    rw [condense]
    split
    · exact ih
    · rename_i busy
      exact condensed_join (Bool.eq_false_iff.mpr busy) ih

end Derivation

namespace Logger

theorem derive_idle {d : Derivation} (idle : d.isIdle = true) (l : Logger σ) : l.derive d = l := by
  cases d with
  | attrs as => simp only [derive, withAttrs, show as.isEmpty = true from idle, if_true]
  | group name =>
    obtain rfl : name = "" := beq_iff_eq.mp idle
    simp only [derive, withGroup, Sink.withGroup_empty]

theorem plain_derive {l : Logger σ} (plain : l.sink.DerivesPlainly) (d : Derivation) :
    (l.derive d).sink.DerivesPlainly := by
  cases d with
  | attrs as =>
    simp only [derive, withAttrs]
    split
    · exact plain
    · exact Sink.plain_withAttrs plain as
  | group name => exact Sink.plain_withGroup plain name

theorem withAttrs_append {l : Logger σ} (plain : l.sink.DerivesPlainly) (as bs : List Attr) :
    (l.withAttrs as).withAttrs bs = l.withAttrs (as ++ bs) := by
  cases as with
  | nil => rfl
  | cons a as =>
    cases bs with
    | nil => rw [List.append_nil]; rfl
    | cons b bs =>
      simp only [withAttrs, List.isEmpty_cons, List.cons_append, Bool.false_eq_true, if_false]
      exact congrArg (Logger.mk · l.context) (Sink.withAttrs_append plain (a :: as) (b :: bs))

theorem derive_join {l : Logger σ} (plain : l.sink.DerivesPlainly) (d : Derivation)
    (ds : List Derivation) : (d.join ds).foldl derive l = ds.foldl derive (l.derive d) := by
  unfold Derivation.join
  split
  · rename_i as bs rest
    rw [List.foldl_cons, List.foldl_cons]
    exact congrArg (rest.foldl derive) (withAttrs_append plain as bs).symm
  · rw [List.foldl_cons]

theorem derive_condense {l : Logger σ} (plain : l.sink.DerivesPlainly) (ds : List Derivation) :
    (Derivation.condense ds).foldl derive l = ds.foldl derive l := by
  induction ds generalizing l with
  | nil => rfl
  | cons d ds ih =>
    rw [Derivation.condense, List.foldl_cons]
    split
    · rename_i idle
      rw [derive_idle idle, ih plain]
    · rw [derive_join plain, ih (plain_derive plain d)]

end Logger

namespace Sink

/-- In every tree whose middlewares leave deriving alone, whatever is bound and open in it, binding one
list after the other gives the tree that binding both at once gives; and a logger derives the same from
the steps that are left once the idle ones are out and neighbouring bindings are joined. -/
theorem derivations_compose {s : Sink σ} (plain : DerivesPlainly s) :
    (∀ as bs, (s.withAttrs as).withAttrs bs = s.withAttrs (as ++ bs)) ∧
    ∀ (c : Context) (ds : List Derivation),
      (Derivation.condense ds).foldl Logger.derive ⟨s, c⟩ = ds.foldl Logger.derive ⟨s, c⟩ ∧
      Derivation.Condensed (Derivation.condense ds) := by
  refine ⟨withAttrs_append plain, fun c ds => ⟨?_, Derivation.condensed_condense ds⟩⟩
  have start : (Logger.mk s c).sink.DerivesPlainly := plain
  exact Logger.derive_condense start ds

/-- The open group is one of two of its name, and the first list brings a third one. -/
theorem derivations_compose_fanout :
    let n := fun key => Attr.mk key (.int 1)
    let scope : Scope := ⟨["g"], [n "x", .group "g" [n "y"], .group "g" [n "z"]]⟩
    let leaf : Sink Unit := .leaf ⟨"db", scope, .memory .info 0⟩
    let route : Sink Unit := Sink.router true [(.ofPredicates [.attrValues [("x", .int 1)]], leaf)]
    let s : Sink Unit := Sink.fanout [.metered 0 route, .hooked .none (.recovered .logging leaf)]
    let as := [.group "g" [n "a"], n "b"]
    let ds : List Derivation := [.attrs as, .attrs [], .group "", .attrs [n "c"], .group "h"]
    DerivesPlainly s ∧ (s.withAttrs as).withAttrs [n "c"] = s.withAttrs (as ++ [n "c"]) ∧
      ([.attrs (as ++ [n "c"]), .group "h"] : List Derivation).foldl Logger.derive (.new s) =
        ds.foldl Logger.derive (.new s) := by
  intro n scope leaf route s as ds
  have plain : DerivesPlainly s := by
    intro h hp
    simp only [s, route, leaf, router, firstMatchOf, fanout, flatten, fanoutMembers?, parts,
      partsEach, partsRoutes, List.map_cons, List.map_nil, List.flatMap_cons, List.flatMap_nil,
      Option.getD_none, List.append_nil, List.cons_append, List.nil_append, if_true,
      List.mem_cons, List.not_mem_nil, or_false, reduceCtorEq, false_or] at hp
    cases hp
    exact ⟨rfl, rfl⟩
  obtain ⟨bound, derived⟩ := derivations_compose plain
  exact ⟨plain, bound as [n "c"], (derived .background ds).1⟩

end Sink
end LogTree
