import UnitOfWork.Proofs.Scope.Coherence

/-!
# Enlisting is all or nothing

An enlistment plans, asks the adapter at most once, and records what the adapter granted. `AllOrNothing`
says that a failure leaves the scope and every ambient transaction as they were, whatever the failure,
and that a success appends one participant and settles the mode. `Routed` says what the adapter is asked
for: the mode decides, and only as long as there is none the ambient transaction on offer.

Between the plan and the answer of the adapter nobody else gets at the scope, but everybody else gets at
the ambient transactions. `Usage.enlistAmid` lets them, and with nothing in between it is an enlistment
in one go. The laws hold in any state of a scope, so in particular in those that a run reaches; a failed
first enlistment leaves the mode open for whoever comes next.
-/

set_option autoImplicit false

namespace UnitOfWork.Scope

/-! ## The statement -/

/-- A usage in which others went on with the ambient transactions. -/
def Usage.meanwhile (u : Usage) (events : List Ambient.Event) : Usage :=
  { u with ambients := events.foldl Ambients.after u.ambients }

/-- Enlist an applicant, with the ambient transaction on offer, while others go on. -/
def Usage.enlistAmid (u : Usage) (applicant : Applicant) (offered : Option AmbientRef)
    (events : List Ambient.Event) : Except TransactionError (Option Nat) × Usage :=
  match u.scope.plan u.ambients applicant.name offered with
  | .error error => (.error error, u.meanwhile events)
  | .ok plan => (u.meanwhile events).carryOut applicant plan

/-- A failure of an enlistment, with the calls of the adapter that were made for it. -/
inductive Refused (applicant : Applicant) : TransactionError → List Call → Prop where
  | state (reason : String) : Refused applicant (.state "enlist" reason) []
  | noActiveTransaction : Refused applicant (.noActiveTransaction applicant.name .begin) []
  | begin (isolation : IsolationLevel) {source : ParticipantError}
      (answer : applicant.begin = .error source) :
      Refused applicant (.begin applicant.name source)
        [.begin applicant.name isolation applicant.begin]
  | ambientEnlist (ambient : String) {source : ParticipantError}
      (answer : applicant.join = .error source) :
      Refused applicant (.ambientEnlist applicant.name ambient source)
        [.join applicant.name ambient applicant.join]

/-- Either nothing of the record changed, or exactly one participant was added to it. -/
structure AllOrNothing (applicant : Applicant) (before : Usage)
    (result : Except TransactionError (Option Nat) × Usage) : Prop where
  nothing : ∀ error, result.1 = .error error →
    ∃ made, result.2 = { before with calls := before.calls ++ made } ∧
      Refused applicant error made
  all : ∀ handle, result.1 = .ok handle → ∃ (mode : Mode) (isolation : IsolationLevel) (call : Call),
    result.2.scope = { before.scope with
      mode := some mode
      participants := before.scope.participants ++
        [⟨before.scope.participants.length, applicant.name, isolation, .enlisted, handle⟩] } ∧
    (handle.isSome = true ↔ mode = .own) ∧ result.2.calls = before.calls ++ [call]

/-- The adapter was asked to begin a transaction at the isolation level of the scope. -/
structure AskedToBegin (applicant : Applicant) (before : Usage)
    (result : Except TransactionError (Option Nat) × Usage) : Prop where
  calls : result.2.calls =
    before.calls ++ [.begin applicant.name before.scope.options.isolation applicant.begin]
  granted : applicant.begin = .ok () →
    (∃ handle, result.1 = .ok (some handle)) ∧ result.2.scope.mode = some .own ∧
      result.2.ambients = before.ambients

/-- The adapter was asked to join the ambient transaction at a place. -/
structure AskedToJoin (applicant : Applicant) (place : AmbientRef) (found : Ambient) (before : Usage)
    (result : Except TransactionError (Option Nat) × Usage) : Prop where
  calls : result.2.calls = before.calls ++ [.join applicant.name found.id applicant.join]
  granted : applicant.join = .ok () →
    result.1 = .ok none ∧ result.2.scope.mode = some (.ambient place) ∧
      result.2.ambients = before.ambients.modify place Ambient.countEnlistment

/-- The scope takes participants: it is open, and neither its completion nor its disposal has begun. -/
def TakesPart (s : Scope Nat) : Prop :=
  s.state = .opened ∧ s.disposing = false ∧ s.completeAttempted = false

/-- The ambient transaction at a place is active. -/
def Usage.Active (u : Usage) (place : AmbientRef) (found : Ambient) : Prop :=
  u.ambients[place]? = some found ∧ found.isActive = true

/-- What an enlistment asks of its adapter, by the mode of the scope. -/
structure Routed (u : Usage) (applicant : Applicant) (offered : Option AmbientRef)
    (events : List Ambient.Event) (result : Except TransactionError (Option Nat) × Usage) : Prop where
  closed : (∃ reason, result.1 = .error (.state "enlist" reason)) ↔ ¬ u.scope.TakesPart
  /-- The first participant joins an active ambient transaction on offer, if the scope prefers that. -/
  first_joins : u.scope.TakesPart → u.scope.mode = none → u.scope.options.preferAmbient = true →
    ∀ place found, offered = some place → u.Active place found →
      AskedToJoin applicant place found (u.meanwhile events) result
  first_begins : u.scope.TakesPart → u.scope.mode = none →
    (u.scope.options.preferAmbient = false ∨
      ∀ place found, offered = some place → ¬ u.Active place found) →
      AskedToBegin applicant (u.meanwhile events) result
  own : u.scope.TakesPart → u.scope.mode = some .own →
    AskedToBegin applicant (u.meanwhile events) result
  /-- Later ones join the ambient transaction that the first one joined, or none. -/
  joined : u.scope.TakesPart → ∀ place, u.scope.mode = some (.ambient place) →
    ∀ found, u.Active place found → AskedToJoin applicant place found (u.meanwhile events) result
  ended : u.scope.TakesPart → ∀ place, u.scope.mode = some (.ambient place) →
    (∀ found, ¬ u.Active place found) →
      result.1 = .error (.noActiveTransaction applicant.name .begin)
  /-- Once there is a mode, nobody looks at what is on offer. -/
  fixed : u.scope.mode ≠ none → ∀ other, u.enlistAmid applicant other events = result

/-! ## The cases of an enlistment -/

/-- With nothing in between, the two acts are one. -/
theorem enlistAmid_nil (u : Usage) (applicant : Applicant) (offered : Option AmbientRef) :
    u.enlistAmid applicant offered [] = u.enlist applicant offered :=
  (u.enlist_eq applicant offered).symm

section Cases

variable {u : Usage} {applicant : Applicant} {offered : Option AmbientRef}
  {events : List Ambient.Event}

/-- A plan that was made is carried out among the ambient transactions as they are then. -/
theorem enlistAmid_of_plan {plan : Plan}
    (h : u.scope.plan u.ambients applicant.name offered = .ok plan) :
    u.enlistAmid applicant offered events = (u.meanwhile events).carryOut applicant plan := by
  simp only [Usage.enlistAmid, h]

/-- An enlistment that is refused calls no adapter; what others do goes on. -/
theorem enlistAmid_of_refused {error : TransactionError}
    (h : u.scope.plan u.ambients applicant.name offered = .error error) :
    u.enlistAmid applicant offered events = (.error error, u.meanwhile events) := by
  simp only [Usage.enlistAmid, h]

/-- The plan of a scope with a mode does not depend on what is on offer. -/
theorem plan_eq_of_mode {H : Type} {s : Scope H} (h : s.mode ≠ none) (ambients : Ambients)
    (name : String) (offered other : Option AmbientRef) :
    s.plan ambients name offered = s.plan ambients name other := by
  unfold plan
  cases hmode : s.mode with
  | none => exact absurd hmode h
  | some mode => cases mode <;> rfl

/-- A scope takes part as long as nothing stands in the way of an enlistment. -/
theorem takesPart_iff (s : Scope Nat) : s.TakesPart ↔ s.enlistObstacle = none :=
  (enlistObstacle_eq_none_iff s).symm

/-- A scope that takes participants plans to begin, unless it is to join. -/
theorem plan_begin (takes : u.scope.TakesPart)
    (mode : u.scope.mode = some .own ∨ u.scope.mode = none ∧
      (u.scope.options.preferAmbient = false ∨
        ∀ place found, offered = some place → ¬ u.Active place found)) :
    u.scope.plan u.ambients applicant.name offered = .ok (.own u.scope.options.isolation) := by
  have hopen := (takesPart_iff _).mp takes
  have hplanned := planned u.scope u.ambients applicant.name offered
  generalize u.scope.plan u.ambients applicant.name offered = r at hplanned ⊢
  cases hplanned with
  | refused obstacle => cases hopen.symm.trans obstacle
  | inactive obstacle joined ended =>
    rcases mode with hmode | ⟨hmode, -⟩ <;> cases hmode.symm.trans joined
  | ambient obstacle joined stored active =>
    rcases mode with hmode | ⟨hmode, hnone⟩
    · rcases joined with joined | ⟨joined, -, -⟩ <;> cases hmode.symm.trans joined
    · rcases joined with joined | ⟨-, hoffered, prefers⟩
      · cases hmode.symm.trans joined
      · rcases hnone with hnone | hnone
        · cases hnone.symm.trans prefers
        · exact absurd ⟨stored, active⟩ (hnone _ _ hoffered)
  | own obstacle own => rfl

/-- It plans to join the ambient transaction it joined before, or the first one it prefers. -/
theorem plan_join {place : AmbientRef} {found : Ambient} (takes : u.scope.TakesPart)
    (active : u.Active place found)
    (mode : u.scope.mode = some (.ambient place) ∨
      u.scope.mode = none ∧ offered = some place ∧ u.scope.options.preferAmbient = true) :
    u.scope.plan u.ambients applicant.name offered = .ok (.ambient place found) := by
  have hopen := (takesPart_iff _).mp takes
  obtain ⟨hstored, hactive⟩ := active
  have hplanned := planned u.scope u.ambients applicant.name offered
  generalize u.scope.plan u.ambients applicant.name offered = r at hplanned ⊢
  cases hplanned with
  | refused obstacle => cases hopen.symm.trans obstacle
  | inactive obstacle joined ended =>
    rcases mode with hmode | ⟨hmode, -, -⟩
    · cases hmode.symm.trans joined
      cases hactive.symm.trans (ended found hstored)
    · cases hmode.symm.trans joined
  | ambient obstacle joined stored =>
    rcases mode with hmode | ⟨hmode, hoffered, -⟩
    · rcases joined with joined | ⟨joined, -, -⟩
      · cases hmode.symm.trans joined
        cases hstored.symm.trans stored
        rfl
      · cases hmode.symm.trans joined
    · rcases joined with joined | ⟨-, joined, -⟩
      · cases hmode.symm.trans joined
      · cases hoffered.symm.trans joined
        cases hstored.symm.trans stored
        rfl
  | own obstacle own =>
    rcases mode with hmode | ⟨hmode, hoffered, prefers⟩
    · rcases own with own | ⟨own, -⟩ <;> cases hmode.symm.trans own
    · rcases own with own | ⟨-, hnone⟩
      · cases hmode.symm.trans own
      · cases prefers.symm.trans (hnone place found hoffered hstored hactive)

/-- It refuses once the ambient transaction it joined has ended. -/
theorem plan_ended {place : AmbientRef} (takes : u.scope.TakesPart)
    (mode : u.scope.mode = some (.ambient place)) (hended : ∀ found, ¬ u.Active place found) :
    u.scope.plan u.ambients applicant.name offered =
      .error (.noActiveTransaction applicant.name .begin) := by
  have hopen := (takesPart_iff _).mp takes
  have hplanned := planned u.scope u.ambients applicant.name offered
  generalize u.scope.plan u.ambients applicant.name offered = r at hplanned ⊢
  cases hplanned with
  | refused obstacle => cases hopen.symm.trans obstacle
  | inactive obstacle joined ended => rfl
  | ambient obstacle joined stored active =>
    rcases joined with joined | ⟨joined, -, -⟩
    · cases mode.symm.trans joined
      exact absurd ⟨stored, active⟩ (hended _)
    · cases mode.symm.trans joined
  | own obstacle own =>
    rcases own with own | ⟨own, -⟩ <;> cases mode.symm.trans own

/-- What carrying out a plan to begin asks and grants. -/
theorem askedToBegin (v : Usage) (applicant : Applicant)
    (mode : v.scope.mode = some .own ∨ v.scope.mode = none) :
    AskedToBegin applicant v (v.carryOut applicant (.own v.scope.options.isolation)) := by
  have hstep := carryStep v applicant (.own v.scope.options.isolation)
  generalize v.carryOut applicant (.own v.scope.options.isolation) = r at hstep ⊢
  cases hstep with
  | notBegun begin =>
    constructor
    · rw [begin]
    · intro hgranted
      cases begin.symm.trans hgranted
  | begun begin =>
    constructor
    · rw [begin]
    · intro _
      exact ⟨⟨_, rfl⟩, withOwn_mode applicant.name _ _ mode, rfl⟩

/-- What carrying out a plan to join asks and grants. -/
theorem askedToJoin (v : Usage) (applicant : Applicant) {place : AmbientRef} (found : Ambient)
    (mode : v.scope.mode = some (.ambient place) ∨ v.scope.mode = none) :
    AskedToJoin applicant place found v (v.carryOut applicant (.ambient place found)) := by
  have hstep := carryStep v applicant (.ambient place found)
  generalize v.carryOut applicant (.ambient place found) = r at hstep ⊢
  cases hstep with
  | notJoined join =>
    constructor
    · rw [join]
    · intro hgranted
      cases join.symm.trans hgranted
  | joined join =>
    constructor
    · rw [join]
    · intro _
      exact ⟨rfl, withAmbient_mode applicant.name found mode, rfl⟩

/-- An adapter that is asked what was planned is asked once, and the record changes only if it agrees. -/
theorem allOrNothing_carryOut {ambients : Ambients} {plan : Plan} (v : Usage) (applicant : Applicant)
    (awaited : Awaited v.scope ambients plan) :
    AllOrNothing applicant v (v.carryOut applicant plan) := by
  have hstep := carryStep v applicant plan
  generalize v.carryOut applicant plan = r at hstep ⊢
  cases hstep with
  | @notJoined _ found _ join =>
    constructor
    · intro error herror
      cases herror
      exact ⟨_, by rw [join], .ambientEnlist found.id join⟩
    · intro handle hok
      cases hok
  | @notBegun isolation _ begin =>
    constructor
    · intro error herror
      cases herror
      exact ⟨_, by rw [begin], .begin isolation begin⟩
    · intro handle hok
      cases hok
  | @joined place found join =>
    constructor
    · intro error herror
      cases herror
    · intro handle hok
      cases hok
      refine ⟨.ambient place, found.isolation, _, ?_, by simp, rfl⟩
      cases awaited with
      | ambient obstacle mode =>
        have hmode := withAmbient_mode applicant.name found mode
        rw [← hmode]
        rfl
  | @begun isolation begin =>
    constructor
    · intro error herror
      cases herror
    · intro handle hok
      cases hok
      refine ⟨.own, isolation, _, ?_, by simp, rfl⟩
      cases awaited with
      | own obstacle mode =>
        have hmode := withOwn_mode applicant.name v.scope.options.isolation (begun v.calls) mode
        rw [← hmode]
        rfl

end Cases

/-! ## The main statement -/

section Laws

variable (u : Usage) (applicant : Applicant) (offered : Option AmbientRef)
  (events : List Ambient.Event)

/-- An enlistment adds one participant by one accepted call, or nobody. -/
theorem allOrNothing_enlistAmid :
    AllOrNothing applicant (u.meanwhile events) (u.enlistAmid applicant offered events) := by
  have hplanned := planned u.scope u.ambients applicant.name offered
  cases hplan : u.scope.plan u.ambients applicant.name offered with
  | ok plan =>
    rw [hplan] at hplanned
    rw [enlistAmid_of_plan hplan]
    exact allOrNothing_carryOut (u.meanwhile events) applicant hplanned.awaited
  | error error =>
    rw [hplan] at hplanned
    rw [enlistAmid_of_refused hplan]
    constructor
    rotate_left
    · intro handle hok
      cases hok
    intro other hother
    cases hother
    have hsame : u.meanwhile events =
        { u.meanwhile events with calls := (u.meanwhile events).calls ++ [] } := by
      rw [List.append_nil]
    cases hplanned with
    | refused obstacle => exact ⟨[], hsame, .state _⟩
    | inactive obstacle mode ended => exact ⟨[], hsame, .noActiveTransaction⟩

/-- An enlistment goes the way that the mode and the offer decide. -/
theorem routed_enlistAmid :
    Routed u applicant offered events (u.enlistAmid applicant offered events) where
  closed := by
    have hplanned := planned u.scope u.ambients applicant.name offered
    rw [takesPart_iff]
    cases hplan : u.scope.plan u.ambients applicant.name offered with
    | error error =>
      rw [hplan] at hplanned
      rw [enlistAmid_of_refused hplan]
      cases hplanned with
      | refused obstacle => simp [obstacle]
      | inactive obstacle mode ended => simp [obstacle]
    | ok plan =>
      rw [hplan] at hplanned
      rw [enlistAmid_of_plan hplan]
      refine iff_of_false ?_ (fun hclosed => hclosed hplanned.obstacle)
      rintro ⟨reason, hrefused⟩
      have hstep := carryStep (u.meanwhile events) applicant plan
      generalize (u.meanwhile events).carryOut applicant plan = r at hrefused hstep
      cases hstep <;> cases hrefused
  first_joins takes mode prefers place found hoffered active := by
    rw [enlistAmid_of_plan (plan_join takes active (.inr ⟨mode, hoffered, prefers⟩))]
    exact askedToJoin _ applicant found (.inr mode)
  first_begins takes mode hnone := by
    rw [enlistAmid_of_plan (plan_begin takes (.inr ⟨mode, hnone⟩))]
    exact askedToBegin _ applicant (.inr mode)
  own takes mode := by
    rw [enlistAmid_of_plan (plan_begin takes (.inl mode))]
    exact askedToBegin _ applicant (.inl mode)
  joined takes place mode found active := by
    rw [enlistAmid_of_plan (plan_join takes active (.inl mode))]
    exact askedToJoin _ applicant found (.inl mode)
  ended takes place mode hended := by
    rw [enlistAmid_of_refused (plan_ended takes mode hended)]
  fixed mode other := by
    unfold Usage.enlistAmid
    rw [plan_eq_of_mode mode u.ambients applicant.name other offered]

end Laws

/-- What others do only adds to what ambient transactions know. -/
theorem later_meanwhile (u : Usage) (events : List Ambient.Event) :
    u.ambients.Later (u.meanwhile events).ambients := by
  show u.ambients.Later (events.foldl Ambients.after u.ambients)
  generalize u.ambients = ambients
  induction events generalizing ambients with
  | nil => exact .refl ambients
  | cons event rest ih => exact (Ambients.later_after ambients event).trans (ih _)

/-- What goes on between plan and answer does not make a scope unsound. -/
theorem sound_enlistAmid {u : Usage} (h : Sound u) (applicant : Applicant)
    (offered : Option AmbientRef) (events : List Ambient.Event) :
    Sound (u.enlistAmid applicant offered events).2 := by
  have hlater := later_meanwhile u events
  have hsound : Sound (u.meanwhile events) := h.later hlater
  have hplanned := planned u.scope u.ambients applicant.name offered
  cases hplan : u.scope.plan u.ambients applicant.name offered with
  | error error =>
    rw [enlistAmid_of_refused hplan]
    exact hsound
  | ok plan =>
    rw [hplan] at hplanned
    rw [enlistAmid_of_plan hplan]
    exact sound_carryOut hsound applicant (hplanned.awaited.later hlater)

/-- Whatever was done with a scope, an enlistment is all or nothing and asks its adapter for what the
mode says; and the mode that a success leaves stays, whatever is done later. -/
theorem enlist_run (discipline : Discipline) (id : String) (options : ScopeOptions)
    (ambients : Ambients) (uses : List Use) (applicant : Applicant) (offered : Option AmbientRef)
    (events : List Ambient.Event) :
    let u := (Usage.start id options ambients).run discipline uses
    let result := u.enlistAmid applicant offered events
    AllOrNothing applicant (u.meanwhile events) result ∧
      Routed u applicant offered events result ∧
      ∀ handle, result.1 = .ok handle →
        ∀ more, (result.2.run discipline more).scope.mode = result.2.scope.mode := by
  intro u result
  have hone : AllOrNothing applicant (u.meanwhile events) result :=
    allOrNothing_enlistAmid u applicant offered events
  have hsound : Sound result.2 :=
    sound_enlistAmid (sound_run discipline id options ambients uses) applicant offered events
  refine ⟨hone, routed_enlistAmid u applicant offered events, fun handle hok more => ?_⟩
  obtain ⟨mode, isolation, call, hscope, -, -⟩ := hone.all handle hok
  have hmode : result.2.scope.mode = some mode := by rw [hscope]
  have hkept := Usage.run_induction (P := fun v => Sound v ∧ v.scope.mode = some mode)
    (mode_step discipline) ⟨hsound, hmode⟩ more
  rw [hkept.2, hmode]

/-- The first connection cannot join the ambient transaction on offer; the mode stays open, and the
second begins a transaction of its own since nothing is on offer to it. -/
example :
    let start := Usage.start "unit" {} [{ id := "outer", isolation := .serializable }]
    let first := start.enlist { name := "orders", join := .error .ambientUnsupported } (some 0)
    let second := first.2.enlist { name := "stock" } none
    (first.2.scope.mode, second.2.scope.mode) = (none, some .own) :=
  rfl

end UnitOfWork.Scope
