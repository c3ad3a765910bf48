import LogTree.Proofs.Journal
import Mathlib.Data.List.Rotate

/-!
Members that have a record in turn. A failover goes through its members from the first one on, a pool
from the start that it draws and round to the member before it; both stop at the first success. The
members may do anything with the state, but they answer when they are asked for their level. Main
statement: `tried_in_turn`.
-/
namespace LogTree
variable {σ : Type}

def World.drawing (w : World σ) (start : Nat) : World σ :=
  { w with draws := fun k => if k = w.drawn then start else w.draws k }

/-- The places of `n` members, from a start on and round. -/
def cyclic (start n : Nat) : List Nat := (List.range n).map fun k => (start + k) % n

namespace Behaviour

theorem rotate_zero {α : Type} (xs : List α) : rotate 0 xs = xs := by simp [rotate]

theorem rotate_range {start n : Nat} (below : start ≤ n) :
    rotate start (List.range n) = cyclic start n := by
  rw [rotate, ← List.rotate_eq_drop_append_take (by simpa using below)]
  refine List.ext_getElem (by simp [cyclic]) fun k _ _ => ?_
  simp [List.getElem_rotate, cyclic, Nat.add_comm]

/-- The places of the members that take the level, from a start on and round. -/
def turns (c : Context) (l : Level) (ms : List (Behaviour σ)) (start : Nat) : List Nat :=
  (cyclic start ms.length).filter fun i => ms[i]?.any (takes c l)

theorem nodup_cyclic {start n : Nat} (below : start ≤ n) : (cyclic start n).Nodup := by
  rw [← rotate_range below, rotate, ← List.rotate_eq_drop_append_take (by simpa using below)]
  exact List.nodup_rotate.mpr List.nodup_range

def allNoted (ms : List (Behaviour σ)) : List (Behaviour (List Attempt × σ)) :=
  ms.zipIdx.map fun x => x.1.noted id x.2

/-- The members in these places were handed a record one after the other, up to the first success. -/
structure InTurn (c : Context) (r : Record) (order : List Nat) (calls : List Attempt)
    (answer : Outcome) : Prop where
  in_order : calls.map Attempt.place <+: order
  once : (calls.map Attempt.place).Nodup
  handed : ∀ a ∈ calls, a.context = c ∧ a.record = r
  stops : ∀ a ∈ calls.dropLast, a.answer ≠ .ok ()
  complete : (∀ a ∈ calls, a.answer ≠ .ok ()) → calls.map Attempt.place = order
  fine_iff : answer = .fine ↔ order = [] ∨ ∃ a ∈ calls, a.answer = .ok ()
  last_stands : answer ≠ .fine → calls.map Attempt.place = order ∧
    ∃ a e, calls.getLast? = some a ∧ a.answer = .error e ∧ answer = .failed e

inductive Tried (c : Context) (r : Record) : List Nat → List Attempt → Prop where
  | nobody : Tried c r [] []
  | success {a : Attempt} (rest : List Nat) : a.context = c → a.record = r → a.answer = .ok () →
    Tried c r (a.place :: rest) [a]
  | failure {a : Attempt} {rest : List Nat} {calls : List Attempt} : a.context = c → a.record = r →
    a.answer ≠ .ok () → Tried c r rest calls → Tried c r (a.place :: rest) (a :: calls)

/-- What stands after the calls: the answer of the last one, or what stood before. -/
def standing (last : Option SinkError) (calls : List Attempt) : Outcome :=
  .ofResult ((calls.getLast?.map Attempt.answer).getD (last.elim (.ok ()) .error))

theorem standing_concat (last : Option SinkError) (init : List Attempt) (a : Attempt) :
    standing last (init ++ [a]) = .ofResult a.answer := by
  rw [standing, List.getLast?_concat]
  rfl

theorem standing_cons {a : Attempt} {e : SinkError} (failed : a.answer = .error e)
    (last : Option SinkError) (calls : List Attempt) :
    standing last (a :: calls) = standing (some e) calls := by
  rw [standing, standing, List.getLast?_cons]
  cases calls.getLast? <;> simp [failed]

namespace Tried
variable {c : Context} {r : Record} {order : List Nat} {calls : List Attempt}

theorem places (tried : Tried c r order calls) : calls.map Attempt.place <+: order := by
  induction tried with
  | nobody => exact List.prefix_refl _
  | success rest => exact ⟨rest, rfl⟩
  | failure _ _ _ _ ih => exact (List.prefix_cons_inj _).mpr ih

theorem handed (tried : Tried c r order calls) : ∀ a ∈ calls, a.context = c ∧ a.record = r := by
  induction tried with
  | nobody => exact fun _ member => absurd member List.not_mem_nil
  | success _ context record => exact List.forall_mem_singleton.mpr ⟨context, record⟩
  | failure context record _ _ ih => exact List.forall_mem_cons.mpr ⟨⟨context, record⟩, ih⟩

theorem stops (tried : Tried c r order calls) : ∀ a ∈ calls.dropLast, a.answer ≠ .ok () := by
  induction tried with
  | nobody | success => exact fun _ member => absurd member List.not_mem_nil
  | @failure a _ calls _ _ failed _ ih =>
    cases calls with
    | nil => exact fun _ member => absurd member List.not_mem_nil
    | cons b calls => exact List.forall_mem_cons.mpr ⟨failed, ih⟩

theorem complete (tried : Tried c r order calls) (fails : ∀ a ∈ calls, a.answer ≠ .ok ()) :
    calls.map Attempt.place = order := by
  induction tried with
  | nobody => rfl
  | success _ _ _ fine => exact absurd fine (fails _ List.mem_cons_self)
  | @failure a _ _ _ _ _ _ ih =>
    exact congrArg (a.place :: ·) (ih (List.forall_mem_cons.mp fails).2)

theorem fine_iff (tried : Tried c r order calls) (last : Option SinkError) :
    standing last calls = .fine ↔
      (order = [] ∧ last = none) ∨ ∃ a ∈ calls, a.answer = .ok () := by
  induction tried generalizing last with
  | nobody => cases last <;> simp [standing, Outcome.ofResult]
  | @success a _ _ _ fine =>
    refine iff_of_true ?_ (.inr ⟨a, List.mem_cons_self, fine⟩)
    exact (standing_concat last [] a).trans (congrArg Outcome.ofResult fine)
  | @failure a _ _ _ _ failed _ ih =>
    cases answer : a.answer with
    | ok _ => exact absurd answer failed
    | error e =>
      rw [standing_cons answer, ih (some e)]
      simp [answer]

theorem last_stands (tried : Tried c r order calls) (not_fine : standing none calls ≠ .fine) :
    calls.map Attempt.place = order ∧
      ∃ a e, calls.getLast? = some a ∧ a.answer = .error e ∧ standing none calls = .failed e := by
  rw [Ne, tried.fine_iff none, not_or] at not_fine
  obtain ⟨some_turn, no_success⟩ := not_fine
  have all := tried.complete fun a member fine => no_success ⟨a, member, fine⟩
  rcases List.eq_nil_or_concat' calls with rfl | ⟨init, a, rfl⟩
  · exact absurd ⟨all.symm, rfl⟩ some_turn
  · cases answer : a.answer with
    | ok _ => exact absurd ⟨a, List.mem_append_right init List.mem_cons_self, answer⟩ no_success
    | error e =>
      refine ⟨all, a, e, List.getLast?_concat, answer, ?_⟩
      rw [standing_concat, answer]
      rfl

theorem inTurn (tried : Tried c r order calls) (distinct : order.Nodup) :
    InTurn c r order calls (standing none calls) where
  in_order := tried.places
  once := distinct.sublist tried.places.sublist
  handed := tried.handed
  stops := tried.stops
  complete := tried.complete
  fine_iff := by simpa using tried.fine_iff none
  last_stands := tried.last_stands

end Tried

section
variable {c : Context} {r : Record}

/-- A run of the members that write their entries: the calls go by turns, the run is otherwise as it
was, and its answer is what stands after the calls. -/
theorem firstSuccess_noted {xs : List (Behaviour σ × Nat)}
    (answers : ∀ x ∈ xs, x.1.Answers c r.level) (last : Option SinkError) (w : World σ)
    (before : List Attempt) :
    ∃ calls, Tried c r ((xs.filter fun x => x.1.takes c r.level).map Prod.snd) calls ∧
      (firstSuccess c r (xs.map Prod.fst) last w).1 = standing last calls ∧
      firstSuccess c r (xs.map fun x => x.1.noted id x.2) last (w.noting before) =
        (firstSuccess c r (xs.map Prod.fst) last w).map id (World.noting · (before ++ calls)) := by
  induction xs generalizing last w before with
  | nil =>
    refine ⟨[], .nobody, ?_, ?_⟩
    · cases last <;> rfl
    · rw [List.append_nil]
      cases last <;> rfl
  | cons x rest ih =>
    obtain ⟨b, i⟩ := x
    obtain ⟨first, others⟩ := List.forall_mem_cons.mp answers
    have enabled : b.enabled c r.level = .ok (b.takes c r.level) := first.enabled
    have enabled_noted : (b.noted id i).enabled c r.level = b.enabled c r.level := rfl
    simp only [List.map_cons, List.filter_cons, firstSuccess, enabled_noted, guarded_noted]
    cases on : b.takes c r.level with
    | false =>
      simp only [enabled, on, Bool.false_eq_true, if_false]
      exact ih others last w before
    | true =>
      let a := b.attempt i c r w
      have answer : a.answer = (b.guarded c r w).1 := b.answer_attempt i c r w
      simp only [enabled, on, if_true]
      rcases h : b.guarded c r w with ⟨e | _, v⟩ <;> rw [h] at answer
      · obtain ⟨calls, tried, same, run⟩ :=
          ih others (some e) (v.note (.triedNext b.name e.text)) (before ++ [a])
        have failed : a.answer ≠ .ok () := by
          rw [answer]
          exact fun fine => by cases fine
        refine ⟨a :: calls, .failure rfl rfl failed tried, ?_, ?_⟩
        · rw [standing_cons answer]
          exact same
        · rw [← List.append_cons before a calls] at run
          exact run
      · refine ⟨[a], .success _ rfl rfl answer, ?_, rfl⟩
        exact ((standing_concat last [] a).trans (congrArg Outcome.ofResult answer)).symm

theorem rotate_allNoted (start : Nat) (ms : List (Behaviour σ)) :
    rotate start (allNoted ms) = (rotate start ms.zipIdx).map fun x => x.1.noted id x.2 :=
  rotate_map _ start ms.zipIdx

theorem rotate_members (start : Nat) (ms : List (Behaviour σ)) :
    rotate start ms = (rotate start ms.zipIdx).map Prod.fst := by
  rw [← rotate_map, List.zipIdx_map_fst]

theorem mem_members {start : Nat} {ms : List (Behaviour σ)} {x : Behaviour σ × Nat}
    (member : x ∈ rotate start ms.zipIdx) : ms[x.2]? = some x.1 :=
  List.mem_zipIdx_iff_getElem?.mp (mem_rotate.mp member)

theorem places_members {start : Nat} {ms : List (Behaviour σ)} (below : start ≤ ms.length) :
    (rotate start ms.zipIdx).map Prod.snd = cyclic start ms.length := by
  rw [← rotate_map, List.zipIdx_map_snd, ← List.range_eq_range', rotate_range below]

theorem turns_members (l : Level) {start : Nat} {ms : List (Behaviour σ)}
    (below : start ≤ ms.length) :
    ((rotate start ms.zipIdx).filter fun x => x.1.takes c l).map Prod.snd = turns c l ms start := by
  rw [turns, ← places_members below, List.filter_map]
  refine congrArg (List.map Prod.snd) (List.filter_congr fun x member => ?_)
  simp [mem_members member]

/-- From any start, with what the members do written down. -/
theorem rotated_inTurn {ms : List (Behaviour σ)} (answers : ∀ b ∈ ms, b.Answers c r.level)
    {start : Nat} (below : start ≤ ms.length) (w : World σ) :
    ∃ calls, InTurn c r (turns c r.level ms start) calls
        (firstSuccess c r (rotate start ms) none w).1 ∧
      firstSuccess c r (rotate start (allNoted ms)) none (w.noting []) =
        (firstSuccess c r (rotate start ms) none w).map id (World.noting · calls) := by
  have members : ∀ x ∈ rotate start ms.zipIdx, x.1.Answers c r.level :=
    fun x member => answers x.1 (List.mem_of_getElem? (mem_members member))
  obtain ⟨calls, tried, same, run⟩ := firstSuccess_noted members none w []
  rw [turns_members r.level below] at tried
  rw [← rotate_members] at same run
  rw [← rotate_allNoted, List.nil_append] at run
  exact ⟨calls, same ▸ tried.inTurn ((nodup_cyclic below).filter _), run⟩

end

section
variable (c : Context) (r : Record)

def tryOn (w : World σ) (b : Behaviour σ) : World σ :=
  match b.guarded c r w with
  | (.ok (), v) => v
  | (.error e, v) => v.note (.triedNext b.name e.text)

def tryAll (ms : List (Behaviour σ)) (w : World σ) (places : List Nat) : World σ :=
  (places.filterMap (ms[·]?)).foldl (tryOn c r) w

/-- Whether a member takes the record does not hang on the others: it is the same from every start, and
whichever of the others were tried before. -/
def Independent (ms : List (Behaviour σ)) (w : World σ) : Prop :=
  ∀ i b, ms[i]? = some b → ∀ start < ms.length, ∀ others : List Nat, (i :: others).Nodup →
    ((b.guarded c r (tryAll c r ms ((w.drawing start).draw ms.length).2 others)).1 = .ok () ↔
      (b.guarded c r w).1 = .ok ())

end

section
variable {c : Context} {r : Record} {ms : List (Behaviour σ)}

theorem tryAll_concat {b : Behaviour σ} {i : Nat} (member : ms[i]? = some b) (w : World σ)
    (places : List Nat) :
    tryAll c r ms w (places ++ [i]) = tryOn c r (tryAll c r ms w places) b := by
  simp [tryAll, member]

/-- Members that do not hang on each other: somebody takes the record, or nobody had a turn. -/
theorem firstSuccess_fine_iff (takesIt : Behaviour σ → Prop) (base : World σ) (others : List Nat)
    {xs : List (Behaviour σ × Nat)} (members : ∀ x ∈ xs, ms[x.2]? = some x.1)
    (answers : ∀ x ∈ xs, x.1.Answers c r.level) (distinct : (others ++ xs.map Prod.snd).Nodup)
    (apart : ∀ x ∈ xs, ∀ others : List Nat, (x.2 :: others).Nodup →
      ((x.1.guarded c r (tryAll c r ms base others)).1 = .ok () ↔ takesIt x.1))
    (last : Option SinkError) :
    (firstSuccess c r (xs.map Prod.fst) last (tryAll c r ms base others)).1 = .fine ↔
      (last = none ∧ ∀ b ∈ xs.map Prod.fst, b.takes c r.level = false) ∨
        ∃ b ∈ xs.map Prod.fst, b.takes c r.level = true ∧ takesIt b := by
  induction xs generalizing others last with
  | nil => cases last <;> simp [firstSuccess]
  | cons x rest ih =>
    obtain ⟨b, i⟩ := x
    obtain ⟨member, members⟩ := List.forall_mem_cons.mp members
    obtain ⟨first, answers⟩ := List.forall_mem_cons.mp answers
    obtain ⟨here, apart⟩ := List.forall_mem_cons.mp apart
    have enabled : b.enabled c r.level = .ok (b.takes c r.level) := first.enabled
    simp only [List.map_cons, firstSuccess, List.forall_mem_cons, List.exists_mem_cons_iff]
    cases on : b.takes c r.level with
    | false =>
      have fewer := distinct.sublist ((List.sublist_cons_self i _).append_left others)
      simp only [enabled, on, true_and, Bool.false_eq_true, false_and, false_or]
      exact ih others members answers fewer apart last
    | true =>
      have unseen : (i :: others).Nodup :=
        (List.nodup_middle.mp distinct).sublist ((List.sublist_append_left others _).cons_cons i)
      have own := here others unseen
      have next := fun e =>
        ih (others ++ [i]) members answers (List.append_cons .. ▸ distinct) apart (some e)
      rw [tryAll_concat member, tryOn] at next
      simp only [enabled, on, true_and, Bool.true_eq_false, false_and, and_false, false_or]
      rcases h : b.guarded c r (tryAll c r ms base others) with ⟨e | _, v⟩ <;> rw [h] at own next
      · have failed : ¬ takesIt b := fun takes => by cases own.mpr takes
        simpa [failed] using next e
      · exact iff_of_true rfl (.inl (own.mp rfl))

theorem handle_pool (some_member : ms ≠ []) (w : World σ) :
    (pool ms).handle c r w =
      firstSuccess c r (rotate (w.draw ms.length).1 ms) none (w.draw ms.length).2 := by
  have filled : ms.isEmpty = false := by simpa using some_member
  simp only [pool, filled, Bool.false_eq_true, if_false]

/-- What decides a pool of such members has nothing to do with the start. -/
theorem pool_fine_iff (answers : ∀ b ∈ ms, b.Answers c r.level) {w : World σ}
    (independent : Independent c r ms w) {start : Nat} (below : start < ms.length) :
    ((pool ms).handle c r (w.drawing start)).1 = .fine ↔
      (∀ b ∈ ms, b.takes c r.level = false) ∨
        ∃ b ∈ ms, b.takes c r.level = true ∧ (b.guarded c r w).1 = .ok () := by
  have drawn : ((w.drawing start).draw ms.length).1 = start := by
    simp [World.drawing, World.draw, Nat.mod_eq_of_lt below]
  have members : ∀ x ∈ rotate start ms.zipIdx, ms[x.2]? = some x.1 := fun _ => mem_members
  have distinct : ((rotate start ms.zipIdx).map Prod.snd).Nodup := by
    rw [places_members below.le]
    exact nodup_cyclic below.le
  have decided := firstSuccess_fine_iff (fun b => (b.guarded c r w).1 = .ok ())
    ((w.drawing start).draw ms.length).2 [] members
    (fun x member => answers x.1 (List.mem_of_getElem? (members x member))) distinct
    (fun x member others => independent x.2 x.1 (members x member) start below others) none
  rw [← rotate_members] at decided
  rw [pool_handle, drawn]
  simp only [true_and, mem_rotate] at decided
  exact decided

/-- Whichever start it comes from, the record goes by turns: the enabled members have it in cyclic
order, each once and as it was given, until one of them takes it. With nobody enabled there is nothing
to fail; with nobody to take it the last error stands. Where the members do not hang on each other, the
start of a pool does not decide whether one of them takes it. -/
theorem tried_in_turn (some_member : ms ≠ []) (answers : ∀ b ∈ ms, b.Answers c r.level)
    (w : World σ) :
    (∃ calls, InTurn c r (turns c r.level ms 0) calls ((failover ms).handle c r w).1 ∧
      (failover (allNoted ms)).handle c r (w.noting []) =
        ((failover ms).handle c r w).map id (World.noting · calls)) ∧
    (∀ start < ms.length, w.draws w.drawn % ms.length = start →
      ∃ calls, InTurn c r (turns c r.level ms start) calls ((pool ms).handle c r w).1 ∧
        (pool (allNoted ms)).handle c r (w.noting []) =
          ((pool ms).handle c r w).map id (World.noting · calls)) ∧
    (Independent c r ms w → ∀ start < ms.length, ∀ other < ms.length,
      (((pool ms).handle c r (w.drawing start)).1 = .fine ↔
        ((pool ms).handle c r (w.drawing other)).1 = .fine)) := by
  refine ⟨?_, ?_, ?_⟩
  · have run := rotated_inTurn answers (Nat.zero_le _) w
    rw [rotate_zero, rotate_zero] at run
    exact run
  · intro start below drawn
    have draws : (w.draw ms.length).1 = start := drawn
    have some_noted : allNoted ms ≠ [] := by simpa [allNoted] using some_member
    have length_noted : (allNoted ms).length = ms.length := by simp [allNoted]
    rw [handle_pool some_member, handle_pool some_noted, length_noted, World.draw_noting,
      Prod.map_fst, draws]
    exact rotated_inTurn answers below.le (w.draw ms.length).2
  · intro independent start below other below'
    rw [pool_fine_iff answers independent below, pool_fine_iff answers independent below']

/-- The start is at the last member, which panics; the one in the middle has no turn. -/
theorem tried_in_turn_round :
    let member := fun (name : String) (on : Bool) (o : Outcome) =>
      (⟨name, fun _ _ => .ok on, fun _ _ w => (o, { w with state := w.state + 1 })⟩ : Behaviour Nat)
    let ms := [member "a" true (.failed (.other "full")), member "b" false .fine,
      member "c" true (.panicked (.text "boom"))]
    let c : Context := .background
    let r : Record := ⟨⟨0, 0⟩, .info, "m", []⟩
    let w : World Nat := .start 0 fun _ => 5
    ms ≠ [] ∧ (∀ b ∈ ms, b.Answers c r.level) ∧ w.draws w.drawn % ms.length = 2 ∧
      (∃ calls, calls.map Attempt.place = [2, 0] ∧
        InTurn c r [2, 0] calls (.failed (.other "full"))) ∧
      Independent c r ms w ∧
      (((pool ms).handle c r (w.drawing 0)).1 = .fine ↔
        ((pool ms).handle c r (w.drawing 1)).1 = .fine) := by
  intro member ms c r w
  have some_member : ms ≠ [] := List.cons_ne_nil _ _
  have answers : ∀ b ∈ ms, b.Answers c r.level := by
    simp only [ms, List.forall_mem_cons]
    exact ⟨answers_of_ok rfl, answers_of_ok rfl, answers_of_ok rfl,
      fun _ none => absurd none List.not_mem_nil⟩
  have constant : ∀ b ∈ ms, ∀ v : World Nat, (b.guarded c r v).1 = (b.guarded c r w).1 := by
    simp only [ms, List.forall_mem_cons]
    exact ⟨fun _ => rfl, fun _ => rfl, fun _ => rfl, fun _ none => absurd none List.not_mem_nil⟩
  have independent : Independent c r ms w := by
    intro i b here _ _ others _
    rw [constant b (List.mem_of_getElem? here)]
  obtain ⟨_, pools, starts⟩ := tried_in_turn some_member answers w
  have drawn : w.draws w.drawn % ms.length = 2 := by decide
  have order : turns c r.level ms 2 = [2, 0] := by decide
  have answer : ((pool ms).handle c r w).1 = .failed (.other "full") := by cbv
  obtain ⟨calls, inTurn, _⟩ := pools 2 (by decide) drawn
  rw [order, answer] at inTurn
  have places := (inTurn.last_stands (fun same => by cases same)).1
  exact ⟨some_member, answers, drawn, ⟨calls, places, inTurn⟩, independent,
    starts independent 0 (by decide) 1 (by decide)⟩

end

end Behaviour
end LogTree
