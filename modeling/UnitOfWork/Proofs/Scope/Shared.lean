import UnitOfWork.Proofs.Scope.Coherence

/-!
# Scopes among shared ambient transactions

Any number of scopes, of either discipline, stand among the same ambient transactions. Whoever holds an
ambient transaction may end it, and whoever holds a scope may enlist with any ambient transaction on
offer, complete, dispose and drop, in any order. A history lists these acts, the latest first.

An enlistment is two acts: its plan, and the answer of the adapter. In between the scope is held and
nothing else gets at it, but everyone else goes on, the owner of the ambient transaction it is about to
join included. `Usage.enlist_eq` says that an enlistment in one go is the two acts in a row. Completions
and disposals need no such division, as they do not look at ambient transactions.

`MoveStep` says everything that one act on a scope can do. What a scope does in answer to its drivers
is known from `CarryStep`, `CompleteStep` and `DisposeStep`; here the last two come down to `Aside`: they
leave the ambient transactions and the mode alone, and a scope without transactions of its own makes no
call in them.
-/

set_option autoImplicit false

namespace UnitOfWork.Scope

/-! ## Acts -/

/-- One of several scopes. -/
structure Member where
  discipline : Discipline
  scope : Scope Nat
  calls : List Call := []
  /-- The enlistment whose adapter has not answered yet. -/
  waiting : Option (Applicant × Plan) := none
  dropped : Bool := false

/-- What is done to one scope: by its holder, or by the adapter it waits for. -/
inductive Move where
  | enlist (applicant : Applicant) (offered : Option AmbientRef)
  | answer
  | complete (answers : Answers) (token : Option Token)
  | dispose (answers : Answers) (token : Option Token)
  | drop (answers : Answers)

namespace Member

/-- A scope by itself, among the ambient transactions. -/
def usage (m : Member) (ambients : Ambients) : Usage :=
  { scope := m.scope, ambients, calls := m.calls }

/-- A scope after it was used by itself. -/
def put (m : Member) (u : Usage) : Member × Ambients :=
  ({ m with scope := u.scope, calls := u.calls }, u.ambients)

/-- Plan an enlistment. A plan that fails is the end of it; otherwise the adapter is asked. -/
def enlist (m : Member) (ambients : Ambients) (applicant : Applicant)
    (offered : Option AmbientRef) : Except TransactionError Unit × Member :=
  match m.scope.plan ambients applicant.name offered with
  | .error error => (.error error, m)
  | .ok plan => (.ok (), { m with waiting := some (applicant, plan) })

/-- The adapter answers, and the enlistment ends. -/
def answer (m : Member) (ambients : Ambients) :
    Option (Except TransactionError (Option Nat)) × Member × Ambients :=
  match m.waiting with
  | none => (none, m, ambients)
  | some (applicant, plan) =>
    let r := (m.usage ambients).carryOut applicant plan
    (some r.1, { m with waiting := none }.put r.2)

/-- The scope and the ambient transactions after a move. Nothing but the answer gets at a scope that
waits for it, and nothing at all at a dropped one. -/
def move (m : Member) (ambients : Ambients) (move : Move) : Member × Ambients :=
  if m.dropped then (m, ambients)
  else match m.waiting, move with
    | some _, .answer => (m.answer ambients).2
    | none, .enlist applicant offered => ((m.enlist ambients applicant offered).2, ambients)
    | none, .complete answers token =>
      m.put ((m.usage ambients).complete m.discipline answers token).2
    | none, .dispose answers token =>
      m.put ((m.usage ambients).dispose m.discipline answers token).2
    | none, .drop answers =>
      { m with dropped := true }.put ((m.usage ambients).drop m.discipline answers)
    | _, _ => (m, ambients)

end Member

/-- Scopes among ambient transactions. -/
structure Shared where
  ambients : Ambients := []
  members : List Member := []

/-- One act. All holders of an ambient transaction name it by its place. -/
inductive Act where
  | begin (id : String) (isolation : IsolationLevel)
  | finish (place : AmbientRef) (ending : AmbientEnding)
  | new (discipline : Discipline) (id : String) (options : ScopeOptions)
  | move (i : Nat) (move : Move)

namespace Shared

/-- After one act; an act on what is not there changes nothing. -/
def next (w : Shared) : Act → Shared
  | .begin id isolation => { w with ambients := w.ambients.after (.begin id isolation) }
  | .finish place ending => { w with ambients := w.ambients.after (.finish place ending) }
  | .new discipline id options =>
    { w with members := w.members ++ [{ discipline, scope := { id, options } }] }
  | .move i move =>
    match w.members[i]? with
    | none => w
    | some m =>
      let r := m.move w.ambients move
      { ambients := r.2, members := w.members.set i r.1 }

/-- After a history, which lists the latest act first. -/
def after : List Act → Shared
  | [] => {}
  | act :: past => (after past).next act

end Shared

/-! ## Standing aside -/

/-- A step of a scope that takes nobody in and leaves the ambient transactions alone. Without
transactions of its own the scope makes no call, and either it stays as it is or it is closed. -/
structure Aside (before after : Usage) : Prop where
  ambients : after.ambients = before.ambients
  mode : after.scope.mode = before.scope.mode
  calls : before.scope.mode ≠ some .own → after.calls = before.calls
  participants : before.scope.mode ≠ some .own →
    after.scope.participants = before.scope.participants
  opened : before.scope.mode ≠ some .own → after.scope.state = .opened → after.scope = before.scope

theorem Aside.refl (u : Usage) : Aside u u := ⟨rfl, rfl, fun _ => rfl, fun _ => rfl, fun _ _ => rfl⟩

/-- A scope with transactions of its own need only keep its mode. -/
theorem Aside.of_own {u : Usage} {s : Scope Nat} {calls : List Call}
    (hmode : u.scope.mode = some .own) (hs : s.mode = u.scope.mode) :
    Aside u { u with scope := s, calls } :=
  ⟨rfl, hs, fun hown => absurd hmode hown, fun hown => absurd hmode hown,
    fun hown => absurd hmode hown⟩

/-- Without transactions of its own a scope holds no handle. -/
theorem Sound.releaseCalls_eq_nil {u : Usage} (h : Sound u) (hown : u.scope.mode ≠ some .own) :
    releaseCalls u.scope.participants = [] := by
  have hnone : handles u.scope.participants = [] :=
    List.filterMap_eq_nil_iff.mpr fun p hp => (h.enlisted hown p hp).1
  simp [releaseCalls, hnone]

section Aside

variable {u : Usage} (h : Sound u)

include h

/-- A completion keeps to one side of what enlistments touch. -/
theorem aside_complete (discipline : Discipline) (answers : Answers) (token : Option Token) :
    Aside u (u.complete discipline answers token).2 := by
  have hstep := completeStep u discipline answers token h.pending
  generalize u.complete discipline answers token = r at hstep ⊢
  cases hstep with
  | refused obstacle => exact .refl u
  | quiet obstacle mode =>
    exact ⟨rfl, rfl, fun _ => rfl, fun _ => rfl, fun _ hopened => by cases hopened⟩
  | through obstacle mode => exact .of_own mode rfl
  | halted obstacle mode => exact .of_own mode rfl

/-- So does a disposal. -/
theorem aside_dispose (discipline : Discipline) (answers : Answers) (token : Option Token) :
    Aside u (u.dispose discipline answers token).2 := by
  have hstep := disposeStep u discipline answers token
  generalize u.dispose discipline answers token = r at hstep ⊢
  cases hstep with
  | again disposed => exact .refl u
  | quiet state needs =>
    refine ⟨rfl, rfl, fun hown => ?_, h.map_released, fun _ hopened => by cases hopened⟩
    show u.calls ++ releaseCalls u.scope.participants = u.calls
    rw [h.releaseCalls_eq_nil hown, List.append_nil]
  | through needs => exact .of_own ((needsRollback_iff _).mp needs).1 rfl
  | stopped needs => exact .of_own ((needsRollback_iff _).mp needs).1 rfl

/-- A dropped scope without transactions of its own is as sound as it was. -/
theorem aside_drop (discipline : Discipline) (answers : Answers) :
    Aside u (u.drop discipline answers) ∧
      (u.scope.mode ≠ some .own → Sound (u.drop discipline answers)) := by
  cases discipline with
  | blocking =>
    rw [Usage.drop_blocking u answers none]
    exact ⟨aside_dispose h .blocking answers none, fun _ => sound_dispose h .blocking answers none⟩
  | suspending =>
    rw [Usage.drop_suspending]
    by_cases hstate : u.scope.state = .disposed
    · rw [if_pos hstate]
      exact ⟨.refl u, fun _ => h⟩
    · rw [if_neg hstate]
      refine ⟨⟨rfl, rfl, fun hown => ?_, h.map_released, fun hown _ => ?_⟩, fun hown => ?_⟩
      · show u.calls ++ releaseCalls u.scope.participants = u.calls
        rw [h.releaseCalls_eq_nil hown, List.append_nil]
      · show { u.scope with participants := u.scope.participants.map Participant.released } = u.scope
        rw [h.map_released hown]
      · exact h.of_same hown rfl (h.map_released hown)

end Aside

/-! ## Moves -/

/-- Whatever an adapter answers, every ambient transaction keeps its place. -/
theorem Usage.later_carryOut (u : Usage) (applicant : Applicant) (plan : Plan) :
    u.ambients.Later (u.carryOut applicant plan).2.ambients := by
  have hstep := carryStep u applicant plan
  generalize u.carryOut applicant plan = r at hstep ⊢
  cases hstep with
  | joined join => exact Ambients.later_after u.ambients (.join _)
  | _ => exact .refl u.ambients

/-- Everything a move can do to a scope and the ambient transactions. -/
inductive MoveStep (m : Member) (ambients : Ambients) : Member × Ambients → Prop where
  | idle : MoveStep m ambients (m, ambients)
  | planned {applicant : Applicant} {plan : Plan} (kept : m.dropped = false)
      (awaited : Awaited m.scope ambients plan) :
      MoveStep m ambients ({ m with waiting := some (applicant, plan) }, ambients)
  | carried {applicant : Applicant} {plan : Plan} (waiting : m.waiting = some (applicant, plan)) :
      MoveStep m ambients
        ({ m with waiting := none }.put ((m.usage ambients).carryOut applicant plan).2)
  | aside {u : Usage} {dropped : Bool} (kept : m.dropped = false) (waiting : m.waiting = none)
      (aside : Aside (m.usage ambients) u)
      (sound : (dropped = true → u.scope.mode ≠ some .own) → Sound u) :
      MoveStep m ambients ({ m with dropped }.put u)

/-- Every move of a scope is one of the steps that are told apart. -/
theorem moveStep {m : Member} {ambients : Ambients} (move : Move)
    (sound : m.dropped = false → Sound (m.usage ambients)) :
    MoveStep m ambients (m.move ambients move) := by
  obtain ⟨discipline, scope, calls, waiting, dropped⟩ := m
  cases dropped with
  | true => exact .idle
  | false =>
    have hsound := sound rfl
    cases waiting with
    | some pair =>
      obtain ⟨applicant, plan⟩ := pair
      cases move with
      | answer => exact .carried rfl
      | _ => exact .idle
    | none =>
      cases move with
      | answer => exact .idle
      | enlist applicant offered =>
        have hplan := planned scope ambients applicant.name offered
        simp only [Member.move, Member.enlist, Bool.false_eq_true, if_false]
        cases hplanned : scope.plan ambients applicant.name offered with
        | error error => exact .idle
        | ok plan =>
          rw [hplanned] at hplan
          exact .planned rfl hplan.awaited
      | complete answers token =>
        exact .aside rfl rfl (aside_complete hsound discipline answers token)
          fun _ => sound_complete hsound discipline answers token
      | dispose answers token =>
        exact .aside rfl rfl (aside_dispose hsound discipline answers token)
          fun _ => sound_dispose hsound discipline answers token
      | drop answers =>
        obtain ⟨haside, hkept⟩ := aside_drop hsound discipline answers
        refine .aside rfl rfl haside fun hown => hkept ?_
        rw [← haside.mode]
        exact hown rfl

end UnitOfWork.Scope
