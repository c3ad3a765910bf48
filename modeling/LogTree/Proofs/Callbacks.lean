import LogTree.Proofs.Derived
import LogTree.Proofs.Watched

/-!
What recoveries report. The callback is any change of the state, so what it makes of the state that the
sink has left says that it ran once, when, and on what. Recoveries inside the sink are read off a
journal that their callbacks write. Main statement: `recovery_never_suppresses`.
-/
namespace LogTree
variable {σ : Type}

def Recovery.Told (c : Context) (r : Record) (e : SinkError) (before after : World σ) :
    Recovery σ → Prop
  | .logging =>
    after = { before with events := before.events.push (.recovered r.level r.message e.text) }
  | .custom report => after = { before with state := report c r e before.state }

/-- What is owed once a sink of that name has ended. A panic has left an event at the boundary. -/
structure Recovery.Owed (x : Recovery σ) (name : String) (c : Context) (r : Record)
    (ended answered : Outcome × World σ) : Prop where
  fine : ended.1 = .fine → answered = ended
  failed : ∀ e, ended.1 = .failed e → answered.1 = .failed e ∧ x.Told c r e ended.2 answered.2
  panicked : ∀ p, ended.1 = .panicked p →
    let e := SinkError.panic name p.message
    let noted := { ended.2 with events := ended.2.events.push (.panicked name p.message) }
    answered.1 = .failed e ∧ x.Told c r e noted answered.2

/-- How the sink behind a recovery ended, and what the callback of the recovery is given. -/
inductive RecoveryEntry (σ : Type) where
  | ended (recovery : Recovery σ) (next : Sink σ) (context : Context) (record : Record)
    (outcome : Outcome)
  | reported (recovery : Recovery σ) (next : Sink σ) (context : Context) (record : Record)
    (error : SinkError)

def Recovery.telling (x : Recovery σ) (next : Sink σ) (c : Context) (r : Record) (e : SinkError) :
    List (RecoveryEntry σ) :=
  [.reported x next c r e]

/-- Every recovery runs as it does; its callback and the sink behind it are watched as well. -/
def Watch.ofRecoveries : Watch (RecoveryEntry σ) σ where
  metered m _ b := .metered m b
  recovered x next b := .recovered (x.beside (x.telling next)) (b.entered (.ended x next))

/-- One call of a sink behind a recovery. -/
structure Trial (σ : Type) where
  recovery : Recovery σ
  next : Sink σ
  context : Context
  record : Record
  outcome : Outcome

namespace Trial

def answer (x : Trial σ) : Except SinkError Unit :=
  match x.outcome with
  | .fine => .ok ()
  | .failed e => .error e
  | .panicked p => .error (.panic x.next.name p.message)

/-- A failure is reported when the sink has ended; a recovery that logs has no entry but its event. -/
def entries (x : Trial σ) : List (RecoveryEntry σ) :=
  RecoveryEntry.ended x.recovery x.next x.context x.record x.outcome ::
    x.recovery.written (x.recovery.telling x.next) x.context x.record x.answer

theorem returns_answer (x : Trial σ) : (Outcome.ofResult x.answer).Returns := by
  cases x.answer with
  | ok _ => exact Outcome.returns_fine
  | error e => exact Outcome.returns_failed e

theorem answer_eq_fine (x : Trial σ) : Outcome.ofResult x.answer = .fine ↔ x.outcome = .fine := by
  unfold answer
  cases x.outcome <;> simp [Outcome.ofResult]

end Trial

def Tried (_ _ : World σ) (entries : List (RecoveryEntry σ)) : Prop :=
  ∃ trials : List (Trial σ), entries = trials.flatMap Trial.entries

theorem account_tried : Account (Tried (σ := σ)) where
  refl _ := ⟨[], rfl⟩
  trans first second := by
    obtain ⟨before, rfl⟩ := first
    obtain ⟨after, rfl⟩ := second
    exact ⟨before ++ after, List.flatMap_append.symm⟩
  note _ _ := ⟨[], rfl⟩
  draw _ _ := ⟨[], rfl⟩
  state _ _ := ⟨[], rfl⟩
  deliver _ _ := ⟨[], rfl⟩

/-- The recovery writes what the sink behind it has written, and then its own trial. -/
theorem handle_ofRecoveries (x : Recovery σ) (next : Sink σ)
    {t : Behaviour (List (RecoveryEntry σ) × σ)} (named : t.name = next.name) {c : Context}
    {r : Record} {w v : World σ} {o : Outcome} {journal notes : List (RecoveryEntry σ)}
    (plain : next.handle c r w = (o, v))
    (ran : t.handle c r (w.noting journal) = (o, v.noting (journal ++ notes))) :
    (Watch.ofRecoveries.recovered x next t).handle c r (w.noting journal) =
      ((Sink.recovered x next).handle c r w).map id
        (World.noting · (journal ++ (notes ++ (Trial.mk x next c r o).entries))) := by
  let own := Trial.mk x next c r o
  let all := journal ++ notes ++ [RecoveryEntry.ended x next c r o]
  have plain' : next.behaviour.handle c r w = (o, v) := plain
  have named' : t.name = next.behaviour.name := named
  have fenced : ∃ u, next.behaviour.guarded c r w = (own.answer, u) ∧
      (t.entered (.ended x next)).guarded c r (w.noting journal) = (own.answer, u.noting all) := by
    simp only [Behaviour.guarded_eq_fence, Behaviour.entered, plain', ran, named']
    cases o with
    | fine => exact ⟨_, rfl, rfl⟩
    | failed e => exact ⟨_, rfl, rfl⟩
    | panicked p => exact ⟨_, rfl, rfl⟩
  obtain ⟨u, behind, watched⟩ := fenced
  have trail : journal ++ (notes ++ own.entries) =
      all ++ x.written (x.telling next) c r own.answer := by simp [all, own, Trial.entries]
  rw [trail]
  exact Behaviour.handle_recovered_beside x (x.telling next) behind watched

theorem reports_ofRecoveries (x : Recovery σ) (next : Sink σ) :
    Watch.ofRecoveries.Reports Tried x next := by
  intro mirrored
  constructor
  · exact mirrored.name
  · exact mirrored.enabled
  · intro c r w journal
    obtain ⟨o, v, notes, plain, ran, fits⟩ := mirrored.handle c r w journal
    have whole := handle_ofRecoveries x next mirrored.name plain ran
    have own : Tried w v (Trial.mk x next c r o).entries :=
      ⟨[_], (List.flatMap_singleton Trial.entries _).symm⟩
    exact ⟨_, _, _, rfl, whole, account_tried.trans fits own⟩

namespace Sink

theorem mirrored_ofRecoveries (s : Sink σ) :
    Behaviour.Mirrored Tried s.behaviour (s.watched .ofRecoveries) := by
  apply mirrored_watched account_tried reports_ofRecoveries
  exact fun x _ mirrored => Behaviour.mirrored_metered account_tried mirrored fun _ _ => ⟨[], rfl⟩

theorem handle_recovered (x : Recovery σ) (next : Sink σ) (c : Context) (r : Record) (w : World σ) :
    x.Owed next.name c r (next.handle c r w) ((recovered x next).handle c r w) := by
  have told : ∀ e v, x.Told c r e v (x.run c r e v) := by
    intro e v
    cases x with
    | logging => rfl
    | custom report => rfl
  simp only [handle, behaviour, Behaviour.recovered, Behaviour.guarded_eq_fence]
  rcases next.behaviour.handle c r w with ⟨_ | e | p, v⟩
  · exact ⟨fun _ => rfl, fun _ same => (by cases same), fun _ same => (by cases same)⟩
  · refine ⟨fun same => (by cases same), fun _ same => ?_, fun _ same => (by cases same)⟩
    cases same
    exact ⟨rfl, told e v⟩
  · refine ⟨fun same => (by cases same), fun _ same => (by cases same), fun _ same => ?_⟩
    cases same
    exact ⟨rfl, told _ _⟩

theorem answer_recovered (x : Recovery σ) (next : Sink σ) (c : Context) (r : Record) (w : World σ) :
    ((recovered x next).handle c r w).1 =
      .ofResult (Trial.mk x next c r (next.handle c r w).1).answer := by
  have owed := handle_recovered x next c r w
  cases ended : (next.handle c r w).1 with
  | fine =>
    rw [owed.fine ended, ended]
    rfl
  | failed e => exact (owed.failed e ended).1
  | panicked p => exact (owed.panicked p ended).1

/-- However a recovery is derived, it returns: fine just if the sink behind it, derived alike, is fine,
else the error of that sink or, if that sink panics, an error that has its name and the text. When the
sink has ended its callback runs once, on the same context, the record as it came and the error that
is returned; where the sink is fine it does not run. Recoveries inside have reported before. -/
theorem recovery_never_suppresses (x : Recovery σ) (inner : Sink σ) (ds : List Derivation)
    (c : Context) (r : Record) (w : World σ) :
    let next := ds.foldl derive inner
    let s := ds.foldl derive (.recovered x inner)
    let ended := next.handle c r w
    let answered := s.handle c r w
    answered.1.Returns ∧ (answered.1 = .fine ↔ ended.1 = .fine) ∧
    x.Owed next.name c r ended answered ∧
    ∀ journal, ∃ trials : List (Trial σ),
      (next.watched .ofRecoveries).handle c r (w.noting journal) =
        ended.map id (World.noting · (journal ++ trials.flatMap Trial.entries)) ∧
      (s.watched .ofRecoveries).handle c r (w.noting journal) =
        answered.map id (World.noting ·
          (journal ++ (trials ++ [Trial.mk x next c r ended.1]).flatMap Trial.entries)) := by
  intro next s ended answered
  have here : s = .recovered x next := derived_recovered ds x inner
  have whole : answered = (recovered x next).handle c r w := congrArg (·.handle c r w) here
  have answer := answer_recovered x next c r w
  rw [whole, answer]
  refine ⟨Trial.returns_answer _, Trial.answer_eq_fine _, handle_recovered x next c r w,
    fun journal => ?_⟩
  have mirrored := mirrored_ofRecoveries next
  obtain ⟨o, v, notes, plain, ran, trials, rfl⟩ := mirrored.handle c r w journal
  have left : ended = (o, v) := plain
  refine ⟨trials, ?_, ?_⟩
  · rw [left]
    exact ran
  · rw [here, List.flatMap_append, List.flatMap_singleton, left]
    exact handle_ofRecoveries x next mirrored.name plain ran

example :
    let boom : Sink (List String) := .leaf
      ⟨"disk", .empty, .custom (fun _ _ _ => .ok true) fun _ _ _ s => (.panicked (.text "full"), s)⟩
    let told := fun who : String => Recovery.custom fun _ r e (s : List String) =>
      s ++ [who ++ " " ++ r.message ++ ": " ++ e.text]
    let s := Sink.recovered (told "outer") (.recovered (told "inner") boom)
    (s.handle .background ⟨⟨0, 0⟩, .info, "m", []⟩ (.start [] fun _ => 0)).2.state =
      ["inner m: sink 'disk' panicked: full", "outer m: sink 'disk' panicked: full"] := by decide

end Sink
end LogTree
