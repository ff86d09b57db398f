import UnitOfWork.Proofs.Scope.Rounds

/-!
# A scope in use

A usage is a watched scope with the ambient transactions around it and the calls it made. Its holder
enlists, completes and disposes in any order and as often as it likes, and others begin, join and end
ambient transactions in between; a run is a list of such uses. One definition serves both disciplines.

Each operation has one relation that says everything it can do: `EnlistStep`, `CompleteStep` and
`DisposeStep`. The laws of later modules are case analyses of these and inductions over runs; none of
them opens an operation again. The cases of a completion presuppose that a scope which may be
completed has only pending participants of its own, which is part of the invariant of a run.
-/

set_option autoImplicit false

namespace UnitOfWork

/-- What happens to ambient transactions outside a unit of work. -/
inductive Ambient.Event where
  | begin (id : String) (isolation : IsolationLevel)
  | finish (place : AmbientRef) (ending : AmbientEnding)
  /-- Another unit of work enlists a participant. -/
  | join (place : AmbientRef)

namespace Ambients

/-- The ambient transactions after an event; a refused ending changes nothing. -/
def after (ambients : Ambients) : Ambient.Event → Ambients
  | .begin id isolation => ambients ++ [{ id, isolation }]
  | .finish place ending => ambients.modify place fun a => (a.finish ending).toOption.getD a
  | .join place => ambients.modify place Ambient.countEnlistment

end Ambients

/-- An active ambient transaction ends as it is asked to. -/
theorem Ambient.finish_of_active {a : Ambient} (h : a.isActive = true) (ending : AmbientEnding) :
    a.finish ending = .ok { a with status := ending.status } := if_pos h

/-- One that has ended says how, and stays as it is. -/
theorem Ambient.finish_of_ended {a : Ambient} (h : a.isActive = false) (ending : AmbientEnding) :
    a.finish ending =
      .error (.state ending.text s!"ambient transaction {a.id} is already {a.status.text}") := by
  unfold Ambient.finish
  rw [h]
  rfl

/-- An ending takes nobody out. -/
theorem Ambient.enlistments_finish (a : Ambient) (ending : AmbientEnding) :
    ((a.finish ending).toOption.getD a).enlistments = a.enlistments := by
  unfold Ambient.finish
  cases a.isActive <;> rfl

/-- The same ambient transaction at another time: what is fixed at its beginning. -/
structure Ambient.Same (now before : Ambient) : Prop where
  id : now.id = before.id
  isolation : now.isolation = before.isolation

theorem Ambient.Same.refl (a : Ambient) : a.Same a := ⟨rfl, rfl⟩

theorem Ambient.Same.trans {a b c : Ambient} (h : a.Same b) (h' : b.Same c) : a.Same c :=
  ⟨h.id.trans h'.id, h.isolation.trans h'.isolation⟩

namespace Ambients

/-- Every ambient transaction keeps its place. -/
def Later (before later : Ambients) : Prop :=
  ∀ (place : AmbientRef) (found : Ambient), before[place]? = some found →
    ∃ now, later[place]? = some now ∧ now.Same found

theorem Later.refl (ambients : Ambients) : ambients.Later ambients :=
  fun _ found stored => ⟨found, stored, .refl found⟩

theorem Later.trans {ambients later last : Ambients} (h : ambients.Later later)
    (h' : later.Later last) : ambients.Later last := by
  intro place found stored
  obtain ⟨now, hnow, same⟩ := h place found stored
  obtain ⟨latest, hlatest, same'⟩ := h' place now hnow
  exact ⟨latest, hlatest, same'.trans same⟩

/-- A change that keeps what scopes know of an ambient transaction moves the store on. -/
theorem later_modify (ambients : Ambients) (place : AmbientRef) {change : Ambient → Ambient}
    (same : ∀ a, (change a).Same a) : ambients.Later (ambients.modify place change) := by
  intro other found stored
  rw [List.getElem?_modify, stored]
  by_cases hplace : place = other
  · exact ⟨change found, by simp only [hplace, if_true]; rfl, same found⟩
  · exact ⟨found, by simp only [hplace, if_false]; rfl, .refl found⟩

/-- Whatever is done to ambient transactions, they stay known. -/
theorem later_after (ambients : Ambients) (event : Ambient.Event) :
    ambients.Later (ambients.after event) := by
  cases event with
  | begin id isolation =>
    intro place found stored
    obtain ⟨hbound, _⟩ := List.getElem?_eq_some_iff.mp stored
    exact ⟨found, by rw [Ambients.after, List.getElem?_append_left hbound, stored], .refl found⟩
  | join place =>
    have same (a : Ambient) : a.countEnlistment.Same a := ⟨rfl, rfl⟩
    exact later_modify ambients place same
  | finish place ending =>
    have same (a : Ambient) : ((a.finish ending).toOption.getD a).Same a := by
      unfold Ambient.finish
      cases a.isActive <;> exact ⟨rfl, rfl⟩
    exact later_modify ambients place same

/-- A refused ending changes nothing. -/
theorem finish_of_ended {ambients : Ambients} {place : AmbientRef} {a : Ambient}
    (stored : ambients[place]? = some a) (h : a.isActive = false) (ending : AmbientEnding) :
    ambients.after (.finish place ending) = ambients := by
  apply List.ext_getElem?
  intro other
  rw [Ambients.after, List.getElem?_modify]
  by_cases hplace : place = other
  · subst hplace
    simp [stored, Ambient.finish_of_ended h, Except.toOption]
  · simp [hplace]

end Ambients

namespace Scope

/-- The two disciplines of a scope. -/
inductive Discipline where
  | blocking
  | suspending

/-- The token that an operation runs under; a blocking scope takes none. -/
def Discipline.token : Discipline → Option Token → Token
  | .suspending, some token => token
  | _, _ => .never

/-- A scope in use. -/
structure Usage where
  scope : Scope Nat
  ambients : Ambients := []
  calls : List Call := []

/-- One thing that its holder, or someone else, does. -/
inductive Use where
  | enlist (applicant : Applicant) (offered : Option AmbientRef)
  | complete (answers : Answers) (token : Option Token)
  | dispose (answers : Answers) (token : Option Token)
  | outside (event : Ambient.Event)

namespace Usage

/-- A fresh scope among these ambient transactions. -/
def start (id : String) (options : ScopeOptions) (ambients : Ambients) : Usage :=
  { scope := { id, options }, ambients }

/-- Enlist an applicant, with the ambient transaction on offer. -/
def enlist (u : Usage) (applicant : Applicant) (offered : Option AmbientRef) :
    Except TransactionError (Option Nat) × Usage :=
  let r := (Scope.enlist ({} : Answers).host applicant.adapter offered u.ambients u.scope).run u.calls
  (r.1.outcome, { scope := r.1.scope, ambients := r.1.ambients, calls := r.2 })

/-- Carry out the plan for an applicant. -/
def carryOut (u : Usage) (applicant : Applicant) (plan : Plan) :
    Except TransactionError (Option Nat) × Usage :=
  let r := (Scope.carryOut ({} : Answers).host applicant.adapter u.ambients u.scope plan).run u.calls
  (r.1.outcome, { scope := r.1.scope, ambients := r.1.ambients, calls := r.2 })

/-- Run a step of the scope. -/
def operate (u : Usage) (step : Scope Nat → Watched (Except TransactionError Unit × Scope Nat)) :
    Except TransactionError Unit × Usage :=
  let r := (step u.scope).run u.calls
  (r.1.1, { u with scope := r.1.2, calls := r.2 })

/-- Complete the scope, under a token or without one. -/
def complete (u : Usage) (discipline : Discipline) (answers : Answers) (token : Option Token) :
    Except TransactionError Unit × Usage :=
  match discipline with
  | .blocking => u.operate (Blocking.complete answers.host)
  | .suspending => u.operate (Suspending.complete (answers.racing token))

/-- Dispose of the scope, under a token or without one. -/
def dispose (u : Usage) (discipline : Discipline) (answers : Answers) (token : Option Token) :
    Except TransactionError Unit × Usage :=
  match discipline with
  | .blocking => u.operate (Blocking.dispose answers.host)
  | .suspending => u.operate (Suspending.dispose (answers.racing token))

/-- Drop the scope, which ends its use. -/
def drop (u : Usage) (discipline : Discipline) (answers : Answers) : Usage :=
  let r := match discipline with
    | .blocking => (Blocking.drop answers.host u.scope).run u.calls
    | .suspending => (Suspending.drop answers.host u.scope).run u.calls
  { u with scope := r.1, calls := r.2 }

/-- The usage after one use. -/
def step (discipline : Discipline) (u : Usage) : Use → Usage
  | .enlist applicant offered => (u.enlist applicant offered).2
  | .complete answers token => (u.complete discipline answers token).2
  | .dispose answers token => (u.dispose discipline answers token).2
  | .outside event => { u with ambients := u.ambients.after event }

/-- The usage after a run. -/
def run (u : Usage) (discipline : Discipline) (uses : List Use) : Usage :=
  uses.foldl (step discipline) u

/-- What every step of these uses keeps, their run keeps. -/
theorem run_induction_mem {discipline : Discipline} {P : Usage → Prop} {uses : List Use}
    (hstep : ∀ u, ∀ use ∈ uses, P u → P (u.step discipline use)) {u : Usage} (hu : P u) :
    P (u.run discipline uses) := by
  induction uses generalizing u with
  | nil => exact hu
  | cons use uses ih =>
    have hnext := hstep u use List.mem_cons_self hu
    exact ih (fun v other hother => hstep v other (List.mem_cons_of_mem use hother)) hnext

/-- What every step keeps, every run keeps. -/
theorem run_induction {discipline : Discipline} {P : Usage → Prop}
    (hstep : ∀ u use, P u → P (u.step discipline use)) {u : Usage} (hu : P u) (uses : List Use) :
    P (u.run discipline uses) :=
  run_induction_mem (fun u use _ => hstep u use) hu

end Usage

/-! ## Enlisting -/

/-- A scope takes participants while it is open and neither completed nor disposed of. -/
theorem enlistObstacle_eq_none_iff {H : Type} (s : Scope H) : s.enlistObstacle = none ↔
    s.state = .opened ∧ s.disposing = false ∧ s.completeAttempted = false := by
  unfold enlistObstacle
  cases s.state <;> cases s.disposing <;> cases s.completeAttempted <;> simp

/-- An open scope is not disposed of. -/
theorem not_disposed {H : Type} {s : Scope H} (h : s.state = .opened) : s.state ≠ .disposed := by
  rw [h]
  decide

/-- Everything a plan can be. -/
inductive Planned {H : Type} (s : Scope H) (ambients : Ambients) (name : String)
    (offered : Option AmbientRef) : Except TransactionError Plan → Prop where
  | refused {reason : String} (obstacle : s.enlistObstacle = some reason) :
      Planned s ambients name offered (.error (.state "enlist" reason))
  | inactive {place : AmbientRef} (obstacle : s.enlistObstacle = none)
      (mode : s.mode = some (.ambient place))
      (ended : ∀ found, ambients[place]? = some found → found.isActive = false) :
      Planned s ambients name offered (.error (.noActiveTransaction name .begin))
  | ambient {place : AmbientRef} {found : Ambient} (obstacle : s.enlistObstacle = none)
      (mode : s.mode = some (.ambient place) ∨
        s.mode = none ∧ offered = some place ∧ s.options.preferAmbient = true)
      (stored : ambients[place]? = some found) (active : found.isActive = true) :
      Planned s ambients name offered (.ok (.ambient place found))
  | own (obstacle : s.enlistObstacle = none)
      (mode : s.mode = some .own ∨ s.mode = none ∧
        ∀ place found, offered = some place → ambients[place]? = some found →
          found.isActive = true → s.options.preferAmbient = false) :
      Planned s ambients name offered (.ok (.own s.options.isolation))

/-- Every plan is one of those that are told apart. -/
theorem planned {H : Type} (s : Scope H) (ambients : Ambients) (name : String)
    (offered : Option AmbientRef) :
    Planned s ambients name offered (s.plan ambients name offered) := by
  unfold plan
  cases hobstacle : s.enlistObstacle with
  | some reason => exact .refused hobstacle
  | none =>
    cases hmode : s.mode with
    | some mode =>
      cases mode with
      | own => exact .own hobstacle (Or.inl hmode)
      | ambient joined =>
        cases hfound : (ambients[joined]?).filter Ambient.isActive with
        | some found =>
          obtain ⟨hstored, hactive⟩ := Option.filter_eq_some_iff.mp hfound
          simp only [hfound]
          exact .ambient hobstacle (Or.inl hmode) hstored hactive
        | none =>
          simp only [hfound]
          refine .inactive hobstacle hmode fun found hstored => ?_
          have := Option.filter_eq_none_iff.mp hfound found hstored
          simpa using this
    | none =>
      cases hfound : offered.bind fun place =>
          ((ambients[place]?).filter Ambient.isActive).map (place, ·) with
      | some pair =>
        obtain ⟨place, hplace, hpair⟩ := Option.bind_eq_some_iff.mp hfound
        obtain ⟨found, hfilter, rfl⟩ := Option.map_eq_some_iff.mp hpair
        obtain ⟨hstored, hactive⟩ := Option.filter_eq_some_iff.mp hfilter
        cases hprefer : s.options.preferAmbient with
        | true =>
          simp only [if_true]
          exact .ambient hobstacle (Or.inr ⟨hmode, hplace, hprefer⟩) hstored hactive
        | false =>
          simp only [Bool.false_eq_true, if_false]
          exact .own hobstacle (Or.inr ⟨hmode, fun _ _ _ _ _ => hprefer⟩)
      | none =>
        refine .own hobstacle (Or.inr ⟨hmode, fun place found hplace hstored hactive => ?_⟩)
        simp [hplace, hstored, Option.filter, hactive] at hfound

/-- A scope that plans to take somebody in is one that does. -/
theorem Planned.obstacle {H : Type} {s : Scope H} {ambients : Ambients} {name : String}
    {offered : Option AmbientRef} {plan : Plan}
    (h : Planned s ambients name offered (.ok plan)) : s.enlistObstacle = none := by
  cases h <;> assumption

/-- Everything an enlistment can do. -/
inductive EnlistStep (u : Usage) (applicant : Applicant) (offered : Option AmbientRef) :
    Except TransactionError (Option Nat) × Usage → Prop where
  | refused {error : TransactionError}
      (plan : Planned u.scope u.ambients applicant.name offered (.error error)) :
      EnlistStep u applicant offered (.error error, u)
  | notJoined {place : AmbientRef} {found : Ambient} {source : ParticipantError}
      (plan : Planned u.scope u.ambients applicant.name offered (.ok (.ambient place found)))
      (join : applicant.join = .error source) :
      EnlistStep u applicant offered
        (.error (.ambientEnlist applicant.name found.id source),
          { u with calls := u.calls ++ [.join applicant.name found.id (.error source)] })
  | joined {place : AmbientRef} {found : Ambient}
      (plan : Planned u.scope u.ambients applicant.name offered (.ok (.ambient place found)))
      (join : applicant.join = .ok ()) :
      EnlistStep u applicant offered
        (.ok none,
          { scope := u.scope.withAmbient applicant.name place found
            ambients := u.ambients.modify place Ambient.countEnlistment
            calls := u.calls ++ [.join applicant.name found.id (.ok ())] })
  | notBegun {isolation : IsolationLevel} {source : ParticipantError}
      (plan : Planned u.scope u.ambients applicant.name offered (.ok (.own isolation)))
      (begin : applicant.begin = .error source) :
      EnlistStep u applicant offered
        (.error (.begin applicant.name source),
          { u with calls := u.calls ++ [.begin applicant.name isolation (.error source)] })
  | begun {isolation : IsolationLevel}
      (plan : Planned u.scope u.ambients applicant.name offered (.ok (.own isolation)))
      (begin : applicant.begin = .ok ()) :
      EnlistStep u applicant offered
        (.ok (some (Scope.begun u.calls)),
          { u with
            scope := u.scope.withOwn applicant.name isolation (Scope.begun u.calls)
            calls := u.calls ++ [.begin applicant.name isolation (.ok ())] })

/-- Lines of the log are no calls. -/
theorem run_noteEnlisted (answers : Answers) (s : Scope Nat) (resolved : Notice) (name : String)
    (isolation : IsolationLevel) (calls : List Call) :
    (noteEnlisted answers.host s resolved name isolation).run calls = ((), calls) := by
  unfold noteEnlisted
  cases s.mode <;> rfl

/-- Everything that carrying out a plan can do. -/
inductive CarryStep (u : Usage) (applicant : Applicant) :
    Plan → Except TransactionError (Option Nat) × Usage → Prop where
  | notJoined {place : AmbientRef} {found : Ambient} {source : ParticipantError}
      (join : applicant.join = .error source) :
      CarryStep u applicant (.ambient place found)
        (.error (.ambientEnlist applicant.name found.id source),
          { u with calls := u.calls ++ [.join applicant.name found.id (.error source)] })
  | joined {place : AmbientRef} {found : Ambient} (join : applicant.join = .ok ()) :
      CarryStep u applicant (.ambient place found)
        (.ok none,
          { scope := u.scope.withAmbient applicant.name place found
            ambients := u.ambients.modify place Ambient.countEnlistment
            calls := u.calls ++ [.join applicant.name found.id (.ok ())] })
  | notBegun {isolation : IsolationLevel} {source : ParticipantError}
      (begin : applicant.begin = .error source) :
      CarryStep u applicant (.own isolation)
        (.error (.begin applicant.name source),
          { u with calls := u.calls ++ [.begin applicant.name isolation (.error source)] })
  | begun {isolation : IsolationLevel} (begin : applicant.begin = .ok ()) :
      CarryStep u applicant (.own isolation)
        (.ok (some (Scope.begun u.calls)),
          { u with
            scope := u.scope.withOwn applicant.name isolation (Scope.begun u.calls)
            calls := u.calls ++ [.begin applicant.name isolation (.ok ())] })

/-- What becomes of a plan is told by the answer of the adapter. -/
theorem carryStep (u : Usage) (applicant : Applicant) (plan : Plan) :
    CarryStep u applicant plan (u.carryOut applicant plan) := by
  unfold Usage.carryOut Scope.carryOut
  cases plan with
  | ambient place found =>
    cases hjoin : applicant.join with
    | error source =>
      simp only [run_bind, run_pure, Applicant.adapter, run_answered, hjoin]
      exact .notJoined hjoin
    | ok _ =>
      simp only [run_bind, run_pure, Applicant.adapter, run_answered, hjoin, run_noteEnlisted]
      exact .joined hjoin
  | own isolation =>
    cases hbegin : applicant.begin with
    | error source =>
      have : (applicant.adapter.beginOwn isolation).run u.calls =
        (.error source, u.calls ++ [.begin applicant.name isolation (.error source)]) := by
        simp only [Applicant.adapter, hbegin]; rfl
      simp only [run_bind, run_pure, this, Answers.run_note]
      exact .notBegun hbegin
    | ok _ =>
      have : (applicant.adapter.beginOwn isolation).run u.calls =
        (.ok (begun u.calls), u.calls ++ [.begin applicant.name isolation (.ok ())]) := by
        simp only [Applicant.adapter, hbegin]; rfl
      simp only [run_bind, run_pure, this, run_noteEnlisted]
      exact .begun hbegin

/-- An enlistment is its plan, carried out at once. -/
theorem Usage.enlist_eq (u : Usage) (applicant : Applicant) (offered : Option AmbientRef) :
    u.enlist applicant offered =
      match u.scope.plan u.ambients applicant.name offered with
      | .error error => (.error error, u)
      | .ok plan => u.carryOut applicant plan := by
  unfold Usage.enlist Scope.enlist
  rw [show applicant.adapter.name = applicant.name from rfl]
  cases u.scope.plan u.ambients applicant.name offered <;> rfl

/-- Every enlistment is one of the steps that are told apart. -/
theorem enlistStep (u : Usage) (applicant : Applicant) (offered : Option AmbientRef) :
    EnlistStep u applicant offered (u.enlist applicant offered) := by
  have hplan := planned u.scope u.ambients applicant.name offered
  rw [Usage.enlist_eq]
  cases h : u.scope.plan u.ambients applicant.name offered with
  | error error => rw [h] at hplan; exact .refused hplan
  | ok plan =>
    rw [h] at hplan
    have hcarry := carryStep u applicant plan
    simp only
    generalize u.carryOut applicant plan = r at hcarry ⊢
    cases hcarry with
    | notJoined join => exact .notJoined hplan join
    | joined join => exact .joined hplan join
    | notBegun begin => exact .notBegun hplan begin
    | begun begin => exact .begun hplan begin

/-! ## Completing -/

open Participant (rollbackCall rollbackFailure commitCall)

/-- The suspending scope under the token of the discipline stands for both disciplines. -/
theorem Usage.complete_eq (u : Usage) (discipline : Discipline) (answers : Answers)
    (token : Option Token) : u.complete discipline answers token =
      u.operate (Suspending.complete (answers.under (discipline.token token))) := by
  have hnever : u.operate (Suspending.complete (answers.under .never)) =
      u.operate (Blocking.complete answers.host) := by
    unfold Usage.operate
    rw [← suspending_complete_uncancelled]
    rfl
  cases discipline with
  | blocking => exact hnever.symm
  | suspending =>
    cases token with
    | none => rfl
    | some token => rfl

/-- A scope may be completed while it is open and neither completed nor disposed of. -/
theorem completeObstacle_eq_none_iff {H : Type} (s : Scope H) : s.completeObstacle = none ↔
    s.state = .opened ∧ s.disposing = false ∧ s.completeAttempted = false := by
  unfold completeObstacle
  cases s.state <;> cases s.disposing <;> cases s.completeAttempted <;> simp

/-- Everything a completion can do. -/
inductive CompleteStep (answers : Answers) (token : Token) (u : Usage) :
    Except TransactionError Unit × Usage → Prop where
  | refused {reason : String} (obstacle : u.scope.completeObstacle = some reason) :
      CompleteStep answers token u (.error (.state "complete" reason), u)
  | quiet (obstacle : u.scope.completeObstacle = none) (mode : u.scope.mode ≠ some .own) :
      CompleteStep answers token u
        (.ok (), { u with scope := { u.scope with completeAttempted := true, state := .completed } })
  | through (obstacle : u.scope.completeObstacle = none) (mode : u.scope.mode = some .own)
      (commits : ∀ p ∈ u.scope.participants, p.Commits answers)
      (passes : token.Passes answers u.calls u.scope.participants) :
      CompleteStep answers token u
        (.ok (),
          { u with
            scope := { u.scope with
              completeAttempted := true
              state := .completed
              participants := u.scope.participants.map Participant.committed }
            calls := u.calls ++ u.scope.participants.flatMap (commitCall answers) })
  | halted {done rest : List (Participant Nat)} {p : Participant Nat} {i : Nat} {halt : Halt}
      (obstacle : u.scope.completeObstacle = none) (mode : u.scope.mode = some .own)
      (split : u.scope.participants = done ++ p :: rest)
      (commits : ∀ q ∈ done, q.Commits answers) (handle : p.handle = some i)
      (halts : halt.At answers token (u.calls ++ done.flatMap (commitCall answers)) i)
      (passes : token.Passes answers u.calls done) :
      CompleteStep answers token u
        (.error (halt.error p.name done.length),
          { u with
            scope := { u.scope with
              completeAttempted := true
              participants := done.map Participant.committed ++
                (p :: rest).map Participant.settled }
            calls := u.calls ++ done.flatMap (commitCall answers) ++ halt.calls i ++
              (p :: rest).flatMap (rollbackCall answers) })

/-- Every completion is one of the steps that are told apart. -/
theorem completeStep (u : Usage) (discipline : Discipline) (answers : Answers)
    (token : Option Token)
    (hpending : u.scope.completeObstacle = none → u.scope.mode = some .own →
      ∀ p ∈ u.scope.participants, p.isPending = true) :
    CompleteStep answers (discipline.token token) u (u.complete discipline answers token) := by
  rw [Usage.complete_eq]
  generalize discipline.token token = token
  unfold Usage.operate Suspending.complete beginComplete
  cases hobstacle : u.scope.completeObstacle with
  | some reason => exact .refused hobstacle
  | none =>
    let attempted : Scope Nat := { u.scope with completeAttempted := true }
    have hattempted : attempted.mode = u.scope.mode := rfl
    by_cases hmode : u.scope.mode = some .own
    · have hround := commitRound answers token attempted 0 u.scope.participants u.calls
        (hpending hobstacle hmode)
      simp only
      rw [if_pos (hattempted.trans hmode)]
      simp only [run_bind]
      generalize (Suspending.commitEach (answers.under token) attempted 0
        u.scope.participants).run u.calls = r at hround ⊢
      cases hround with
      | through commits passes => exact .through hobstacle hmode commits passes
      | halted split commits handle halts passes =>
        rw [Nat.zero_add]
        exact .halted hobstacle hmode split commits handle halts passes
    · simp only
      rw [if_neg (fun h => hmode (hattempted.symm.trans h))]
      exact .quiet hobstacle hmode

/-! ## Disposing -/

/-- The releases of a scope with these participants. -/
def releaseCalls (ps : List (Participant Nat)) : List Call := (handles ps).map .release

@[simp] theorem handles_settled {H : Type} (ps : List (Participant H)) :
    handles (ps.map Participant.settled) = handles ps := by
  simp only [handles, List.filterMap_map, Function.comp_def, Participant.settled_handle]

/-- A release calls each handle once, in order, and takes it off its participant. -/
theorem run_releaseAll (answers : Answers) (s : Scope Nat) (calls : List Call) :
    (releaseAll answers.host s).run calls =
      (s.released, calls ++ releaseCalls s.participants) := by
  have hloop (held : List Nat) : (held.forM answers.host.release).run calls =
      (⟨⟩, calls ++ held.map .release) := by
    induction held generalizing calls with
    | nil => simp only [List.forM, run_pure, List.map_nil, List.append_nil]
    | cons i held ih =>
      simp only [List.forM, run_bind, Answers.run_release, ih, List.map_cons,
        List.append_assoc, List.cons_append, List.nil_append]
  simp only [releaseAll, run_bind, run_pure, hloop, releaseCalls]

/-- A scope that was disposed of, with the participants it had. -/
def closed (s : Scope Nat) (ps : List (Participant Nat)) (disposing : Bool) : Scope Nat :=
  { s with participants := ps.map Participant.released, state := .disposed, disposing }

/-- Everything a disposal can do. Under the blocking discipline the mark of a disposal under way is
left as it was; once the scope is disposed of, nothing looks at it. -/
inductive DisposeStep (answers : Answers) (token : Token) (u : Usage) :
    Except TransactionError Unit × Usage → Prop where
  | again (disposed : u.scope.state = .disposed) : DisposeStep answers token u (.ok (), u)
  | quiet {disposing : Bool} (state : u.scope.state ≠ .disposed)
      (needs : u.scope.needsRollback = false) :
      DisposeStep answers token u
        (.ok (),
          { u with
            scope := closed u.scope u.scope.participants disposing
            calls := u.calls ++ releaseCalls u.scope.participants })
  | through {disposing : Bool} (needs : u.scope.needsRollback = true) :
      DisposeStep answers token u
        (disposal (u.scope.participants.flatMap (rollbackFailure answers)),
          { u with
            scope := closed u.scope (u.scope.participants.map Participant.settled) disposing
            calls := u.calls ++ u.scope.participants.flatMap (rollbackCall answers) ++
              releaseCalls u.scope.participants })
  | stopped {settled rest : List (Participant Nat)} {p : Participant Nat} {i : Nat}
      {outcomeUnknown : Bool} (needs : u.scope.needsRollback = true)
      (split : u.scope.participants = settled ++ p :: rest) (pending : p.isPending = true)
      (handle : p.handle = some i)
      (stops : token.Stops (u.calls ++ settled.flatMap (rollbackCall answers)) outcomeUnknown) :
      DisposeStep answers token u
        (.error (.cancelled p.name p.index .rollback outcomeUnknown),
          { u with
            scope := { u.scope with
              disposing := true
              participants := settled.map Participant.settled ++ p :: rest }
            calls := u.calls ++ settled.flatMap (rollbackCall answers) ++
              interruptedRollback i outcomeUnknown })

/-- A scope that needs rollbacks has transactions of its own and is open. -/
theorem needsRollback_iff {H : Type} (s : Scope H) :
    s.needsRollback = true ↔ s.mode = some .own ∧ s.state = .opened := by
  simp only [needsRollback, Bool.and_eq_true, beq_iff_eq]

/-- A scope with transactions of its own that needs no rollback, and is not disposed of, was
completed. -/
theorem completed_of_quiet {H : Type} {s : Scope H} (hmode : s.mode = some .own)
    (hstate : s.state ≠ .disposed) (needs : s.needsRollback = false) : s.state = .completed := by
  cases h : s.state with
  | opened =>
    rw [(needsRollback_iff s).mpr ⟨hmode, h⟩] at needs
    cases needs
  | completed => rfl
  | disposed => exact absurd h hstate

/-- A disposal under a token is one of the steps that are told apart. -/
theorem disposeStep_under (u : Usage) (answers : Answers) (token : Token) :
    DisposeStep answers token u (u.operate (Suspending.dispose (answers.under token))) := by
  by_cases hstate : u.scope.state = .disposed
  · have : Suspending.dispose (answers.under token) u.scope = pure (.ok (), u.scope) :=
      if_pos hstate
    simp only [Usage.operate, this, run_pure]
    exact .again hstate
  · unfold Usage.operate Suspending.dispose
    rw [if_neg hstate]
    have hneeds : u.scope.beginDispose.needsRollback = u.scope.needsRollback := rfl
    cases h : u.scope.needsRollback with
    | false =>
      simp only [hneeds, h, Bool.false_eq_true, if_false, run_bind, run_pure,
        Answers.toHost_under, run_releaseAll, Answers.run_note, disposal, List.isEmpty_nil, if_true]
      exact .quiet hstate h
    | true =>
      have hround := rollbackRound answers token u.scope.beginDispose [] u.scope.participants u.calls
      simp only [hneeds, h, if_true, run_bind]
      have hps : u.scope.beginDispose.participants = u.scope.participants := rfl
      rw [hps]
      generalize (Suspending.rollBackEach (answers.under token) u.scope.beginDispose []
        u.scope.participants).run u.calls = r at hround ⊢
      cases hround with
      | through =>
        simp only [List.nil_append, run_bind, run_pure, Answers.toHost_under, run_releaseAll,
          Answers.run_note, releaseCalls, handles_settled]
        exact .through h
      | stopped split pending handle stops =>
        exact .stopped h split pending handle stops

/-- A token that never fires stops nothing. -/
theorem Token.never_stops {calls : List Call} {outcomeUnknown : Bool} :
    ¬ Token.never.Stops calls outcomeUnknown := by
  rintro ⟨hseen, hfires⟩
  cases outcomeUnknown with
  | false => cases hseen
  | true => cases hfires rfl

/-- The cases of a disposal are those of the suspending scope under the token of the discipline. -/
theorem disposeStep (u : Usage) (discipline : Discipline) (answers : Answers)
    (token : Option Token) :
    DisposeStep answers (discipline.token token) u (u.dispose discipline answers token) := by
  cases discipline with
  | suspending =>
    have hracing : answers.racing token = answers.under (Discipline.suspending.token token) := by
      cases token <;> rfl
    unfold Usage.dispose
    simp only [hracing]
    exact disposeStep_under u answers _
  | blocking =>
    by_cases hstate : u.scope.state = .disposed
    · have : Blocking.dispose answers.host u.scope = pure (.ok (), u.scope) := if_pos hstate
      simp only [Usage.dispose, Usage.operate, this, run_pure]
      exact .again hstate
    · have hnever := disposeStep_under u answers .never
      have hmark : u.operate (Suspending.dispose (answers.under .never)) =
          ((u.operate (Blocking.dispose answers.host)).1,
            { (u.operate (Blocking.dispose answers.host)).2 with
              scope := (u.operate (Blocking.dispose answers.host)).2.scope.beginDispose }) := by
        unfold Usage.operate
        rw [show answers.under .never = answers.host.uncancelled from rfl,
          suspending_dispose_uncancelled answers.host u.scope hstate]
        rfl
      rw [hmark] at hnever
      show DisposeStep answers .never u (u.operate (Blocking.dispose answers.host))
      generalize u.operate (Blocking.dispose answers.host) = r at hnever ⊢
      obtain ⟨outcome, ⟨id, options, mode, ps, state, attempted, disposing⟩, ambients, calls⟩ := r
      cases hnever with
      | again disposed => exact absurd disposed hstate
      | quiet state needs => exact .quiet state needs
      | through needs => exact .through needs
      | stopped needs split pending handle stops => exact absurd stops Token.never_stops

/-- A blocking disposal leaves nothing to be disposed of. -/
theorem disposed_of_blocking (u : Usage) (answers : Answers) (token : Option Token) :
    (u.dispose .blocking answers token).2.scope.state = .disposed := by
  have hstep := disposeStep u .blocking answers token
  generalize u.dispose .blocking answers token = r at hstep ⊢
  cases hstep with
  | again disposed => exact disposed
  | quiet state needs => rfl
  | through needs => rfl
  | stopped needs split pending handle stops => exact absurd stops Token.never_stops

/-- A disposal takes no call back. -/
theorem prefix_dispose (u : Usage) (discipline : Discipline) (answers : Answers)
    (token : Option Token) : u.calls <+: (u.dispose discipline answers token).2.calls := by
  have hstep := disposeStep u discipline answers token
  generalize u.dispose discipline answers token = r at hstep ⊢
  cases hstep with
  | again disposed => exact List.prefix_refl _
  | quiet state needs => exact List.prefix_append _ _
  | through needs =>
    rw [List.append_assoc]
    exact List.prefix_append _ _
  | stopped needs split pending handle stops =>
    rw [List.append_assoc]
    exact List.prefix_append _ _

/-! ## Dropping -/

/-- A dropped blocking scope is disposed of. -/
theorem Usage.drop_blocking (u : Usage) (answers : Answers) (token : Option Token) :
    u.drop .blocking answers = (u.dispose .blocking answers token).2 := by
  unfold Usage.drop Usage.dispose Usage.operate Blocking.drop
  simp only [run_bind]
  cases ((Blocking.dispose answers.host u.scope).run u.calls).1.1 <;> rfl

/-- A dropped suspending scope releases its handles, unless it was disposed of. -/
theorem Usage.drop_suspending (u : Usage) (answers : Answers) :
    u.drop .suspending answers =
      if u.scope.state = .disposed then u
      else { u with
        scope := u.scope.released
        calls := u.calls ++ releaseCalls u.scope.participants } := by
  unfold Usage.drop Suspending.drop
  by_cases hstate : u.scope.state = .disposed
  · simp only [if_pos hstate, run_pure]
  · simp only [if_neg hstate]
    cases u.scope.needsRollback <;>
      simp only [Bool.false_eq_true, if_false, if_true, run_bind, Answers.run_note, run_releaseAll]

end Scope

end UnitOfWork
