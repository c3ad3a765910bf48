import LogTree.Predicate
import Mathlib.Data.List.Basic

/-!
What the walk over nested attributes does, and what the tests on attributes decide by it. A walk feeds
the list of all visits to its visitor up to the first refusal; a search for pairs, which refuses once
nothing is left to find, finds them all exactly when each is satisfied by a visit of the full list.
-/
namespace LogTree
variable {σ : Type}

/-- Lists of attributes by their first one: a group, whose own list is smaller, or any other. -/
@[elab_as_elim]
theorem attrs_induction {motive : List Attr → Prop} (nil : motive [])
    (value : ∀ key v rest, v.isGroup = false → motive rest → motive (.mk key v :: rest))
    (group : ∀ key inner rest, motive inner → motive rest → motive (.group key inner :: rest))
    (attrs : List Attr) : motive attrs := by
  refine @Value.rec_1 (fun v => ∀ inner, v = .group inner → motive inner)
    (fun a => ∀ inner, a.value = .group inner → motive inner) motive
    ?_ ?_ ?_ ?_ ?_ ?_ ?_ ?_ ?_ ?_ ?_ nil ?_ attrs
  case refine_9 =>
    intro as ih inner same
    exact Value.group.inj same ▸ ih
  case refine_11 => exact fun _ _ ih => ih
  case refine_12 =>
    intro a rest inner ih
    obtain ⟨key, v⟩ := a
    by_cases nested : v.isGroup = true
    · cases v with
      | group as => exact group key as rest (inner as rfl) ih
      | _ => contradiction
    · exact value key v rest (Bool.eq_false_iff.mpr nested) ih
  all_goals (intros; contradiction)

/-- The visit of a group itself; one without a name has none. -/
def groupVisit (under : String) (key : Key) (inner : List Attr) : List Visit :=
  if key == "" then [] else [⟨joinPath under key, .group inner⟩]

@[simp] theorem visitsUnder_nil (under : String) : visitsUnder under [] = [] := by
  rw [visitsUnder]

theorem visitsUnder_value (under : String) (key : Key) {v : Value} (plain : v.isGroup = false)
    (rest : List Attr) :
    visitsUnder under (.mk key v :: rest) = ⟨joinPath under key, v⟩ :: visitsUnder under rest := by
  cases v with
  | group _ => contradiction
  | _ => rw [visitsUnder]; rfl; exact fun _ same => Value.noConfusion same

theorem visitsUnder_group (under : String) (key : Key) (inner rest : List Attr) :
    visitsUnder under (.group key inner :: rest) =
      groupVisit under key inner ++ visitsUnder (joinPath under key) inner ++
        visitsUnder under rest := by
  rw [Attr.group, visitsUnder]
  rfl

theorem visitsUnder_append (under : String) (as bs : List Attr) :
    visitsUnder under (as ++ bs) = visitsUnder under as ++ visitsUnder under bs := by
  induction as using attrs_induction with
  | nil => simp
  | value key v rest plain ih =>
    rw [List.cons_append, visitsUnder_value under key plain, visitsUnder_value under key plain, ih,
      List.cons_append]
  | group key inner rest _ ih =>
    rw [List.cons_append, visitsUnder_group, visitsUnder_group, ih]
    simp only [List.append_assoc]

def onward (next : σ → Bool × σ) : Bool × σ → Bool × σ
  | (false, t) => (false, t)
  | (true, t) => next t

/-- Gives the visits to the visitor, up to the first that it refuses. -/
def feed (visit : Visitor σ) : List Visit → σ → Bool × σ
  | [], s => (true, s)
  | v :: vs, s => onward (feed visit vs) (visit v s)

theorem feed_append (visit : Visitor σ) (us vs : List Visit) (s : σ) :
    feed visit (us ++ vs) s = onward (feed visit vs) (feed visit us s) := by
  induction us generalizing s with
  | nil => rfl
  | cons u us ih =>
    rw [List.cons_append, feed, feed]
    rcases visit u s with ⟨_ | _, t⟩
    · rfl
    · exact ih t

theorem feed_single (visit : Visitor σ) (v : Visit) (s : σ) : feed visit [v] s = visit v s := by
  rw [feed]
  rcases visit v s with ⟨_ | _, t⟩ <;> rfl

theorem walkUnder_value (visit : Visitor σ) (under : String) (key : Key) {v : Value}
    (plain : v.isGroup = false) (rest : List Attr) (s : σ) :
    walkUnder visit under (.mk key v :: rest) s =
      onward (walkUnder visit under rest) (visit ⟨joinPath under key, v⟩ s) := by
  cases v with
  | group _ => contradiction
  | _ => rw [walkUnder]; rfl; exact fun _ same => Value.noConfusion same

theorem walkUnder_group (visit : Visitor σ) (under : String) (key : Key) (inner rest : List Attr)
    (s : σ) :
    walkUnder visit under (.group key inner :: rest) s =
      onward (walkUnder visit under rest)
        (onward (walkUnder visit (joinPath under key) inner)
          (feed visit (groupVisit under key inner) s)) := by
  rw [Attr.group, walkUnder, groupVisit]
  by_cases unnamed : (key == "") = true
  · simp only [if_pos unnamed]
    rfl
  · simp only [if_neg unnamed, feed_single]
    rfl

/-- The walk is the full list of visits, given to the visitor in order. -/
theorem walkUnder_eq_feed (visit : Visitor σ) (under : String) (attrs : List Attr) (s : σ) :
    walkUnder visit under attrs s = feed visit (visitsUnder under attrs) s := by
  induction attrs using attrs_induction generalizing under s with
  | nil => rw [walkUnder, visitsUnder_nil, feed]
  | value key v rest plain ih =>
    have onto : walkUnder visit under rest = feed visit (visitsUnder under rest) :=
      funext (ih under)
    rw [visitsUnder_value under key plain, walkUnder_value visit under key plain, feed, onto]
  | group key inner rest inside ih =>
    have onto : walkUnder visit under rest = feed visit (visitsUnder under rest) :=
      funext (ih under)
    have into : walkUnder visit (joinPath under key) inner =
        feed visit (visitsUnder (joinPath under key) inner) :=
      funext (inside (joinPath under key))
    rw [visitsUnder_group, walkUnder_group, feed_append, feed_append, onto, into]

namespace Search
variable {α : Type} {same : α → Value → Bool}

def Counts (s : Search α) : Prop := s.remaining = s.sought.countP fun x => !x.found

/-- The pair was found before or is satisfied by one of the visits. -/
def metBy (same : α → Value → Bool) (vs : List Visit) (x : Sought α) : Bool :=
  x.found || vs.any fun v => x.key == v.path && same x.expected v.value

theorem counts_ofPairs (pairs : List (Key × α)) : Counts (ofPairs pairs) := by
  induction pairs with
  | nil => rfl
  | cons p pairs ih =>
    have cons : (ofPairs (p :: pairs)).sought = ⟨p.1, p.2, false⟩ :: (ofPairs pairs).sought := rfl
    rw [Counts, cons, List.countP_cons_of_pos (by rfl), ← ih]
    rfl

/-- What is open before a visit is hit by it or open after it. -/
theorem countP_open (same : α → Value → Bool) (v : Visit) (xs : List (Sought α)) :
    xs.countP (fun x => !x.found) = xs.countP (hits same v) +
      (xs.map fun x => { x with found := x.found || hits same v x }).countP fun x => !x.found := by
  induction xs with
  | nil => rfl
  | cons x xs ih =>
    simp only [List.map_cons, List.countP_cons, ih]
    cases found : x.found
    · cases hit : hits same v x <;> simp <;> omega
    · have no_hit : hits same v x = false := by simp [hits, found]
      simp [no_hit]

theorem counts_see (same : α → Value → Bool) (v : Visit) {s : Search α} (counts : Counts s) :
    Counts (see same v s).2 := by
  have total := countP_open same v s.sought
  rw [← counts] at total
  simp only [Counts, see]
  omega

/-- A search that counts right ends with nothing left exactly when each pair is met. -/
theorem remaining_feed (vs : List Visit) {s : Search α} (counts : Counts s) :
    (feed (see same) vs s).2.remaining = 0 ↔ ∀ x ∈ s.sought, metBy same vs x = true := by
  induction vs generalizing s with
  | nil =>
    rw [feed, counts, List.countP_eq_zero]
    simp [metBy]
  | cons v vs ih =>
    have counts' := counts_see same v counts
    have marks : (∀ x ∈ (see same v s).2.sought, metBy same vs x = true) ↔
        ∀ x ∈ s.sought, metBy same (v :: vs) x = true := by
      simp only [see, List.forall_mem_map]
      refine forall₂_congr fun x _ => ?_
      simp only [metBy, hits, List.any_cons]
      cases x.found <;> simp
    rw [← marks, feed]
    by_cases more : 0 < (see same v s).2.remaining
    · have goes : see same v s = (true, (see same v s).2) := by simpa [see] using more
      rw [goes]
      exact ih counts'
    · have stops : see same v s = (false, (see same v s).2) := by simpa [see] using more
      have none_left : (see same v s).2.remaining = 0 := Nat.eq_zero_of_not_pos more
      rw [stops]
      refine iff_of_true none_left fun x hx => ?_
      rw [counts', List.countP_eq_zero] at none_left
      have found := none_left x hx
      simp only [Bool.not_eq_true', Bool.not_eq_false] at found
      rw [metBy, found, Bool.true_or]

/-- Stopping early does not show: each pair is satisfied by some visit of the full list. -/
theorem allFound_eq (same : α → Value → Bool) (pairs : List (Key × α)) (attrs : List Attr) :
    allFound same pairs attrs =
      pairs.all fun p => (visits attrs).any fun v => p.1 == v.path && same p.2 v.value := by
  have search : (walk (see same) attrs (ofPairs pairs)).2.remaining = 0 ↔
      ∀ p ∈ pairs, (visits attrs).any (fun v => p.1 == v.path && same p.2 v.value) = true := by
    rw [walk, walkUnder_eq_feed, remaining_feed _ (counts_ofPairs pairs)]
    simp only [ofPairs, List.forall_mem_map]
    rfl
  rw [Bool.eq_iff_iff, allFound, Bool.or_eq_true, beq_iff_eq, search, List.all_eq_true,
    List.isEmpty_iff]
  constructor
  · rintro (rfl | met)
    · exact List.forall_mem_nil _
    · exact met
  · exact .inr

end Search
end LogTree
