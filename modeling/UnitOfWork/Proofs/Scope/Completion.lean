import UnitOfWork.Proofs.Scope.Ledger

/-!
# The one completion of a blocking scope

A blocking scope whose participants are in transactions of their own commits them in order. Either all
commits succeed, or the first that fails stops it: the participants before stay committed, and from
that one on each is rolled back once, in order and whatever the drivers answer. The failure names the
participant and keeps what its driver said. After that the scope takes no participant, completes no
more, and has nothing left to roll back.

The main statement is `complete_blocking_run`. `spent_run` carries its last part over any later uses.
-/

set_option autoImplicit false

namespace UnitOfWork.Scope

open Participant (rollbackCall rollbackFailure commitCall)

/-! ## The statement -/

/-- Whether a use is a completion. -/
def Use.isComplete : Use → Bool
  | .complete .. => true
  | _ => false

/-- Every commit succeeded. -/
structure AllCommitted (answers : Answers) (u : Usage)
    (result : Except TransactionError Unit × Usage) : Prop where
  answered : ∀ i, i < u.scope.participants.length → answers.commit i = .ok ()
  outcome : result.1 = .ok ()
  calls : result.2.calls = u.calls ++ commitsOf answers (List.range u.scope.participants.length)
  participants : result.2.scope.participants = u.scope.participants.map Participant.committed
  state : result.2.scope.state = .completed

/-- A scope that takes no participant, does not complete and has nothing to roll back. -/
structure Spent (discipline : Discipline) (u : Usage) : Prop where
  enlist : ∀ applicant offered, ∃ reason,
    u.enlist applicant offered = (.error (.state "enlist" reason), u)
  complete : ∀ answers token, ∃ reason,
    u.complete discipline answers token = (.error (.state "complete" reason), u)
  dispose : ∀ answers token, (u.dispose discipline answers token).1 = .ok () ∧
    rollbacks (u.dispose discipline answers token).2.calls = rollbacks u.calls

/-- The commit of a participant failed first. -/
structure FailedAt (answers : Answers) (u : Usage) (k : Nat) (source : ParticipantError)
    (result : Except TransactionError Unit × Usage) : Prop where
  place : k < u.scope.participants.length
  before : ∀ i, i < k → answers.commit i = .ok ()
  failed : answers.commit k = .error source
  outcome : ∃ p : Participant Nat, u.scope.participants[k]? = some p ∧
    result.1 = .error (.commit p.name k source)
  calls : result.2.calls = u.calls ++ commitsOf answers (List.range (k + 1)) ++
    rollbacksOf answers (List.range' k (u.scope.participants.length - k))
  participants : result.2.scope.participants =
    (u.scope.participants.take k).map Participant.committed ++
      (u.scope.participants.drop k).map Participant.rolledBack
  state : result.2.scope.state = .opened
  after : ∀ later, Spent .blocking (result.2.run .blocking later)

/-! ## Participants after a round of rollbacks -/

section Settled

variable {answers : Answers} {ps : List (Participant Nat)}

/-- If everyone is pending, to settle is to roll back. -/
theorem map_settled_of_pending (h : ∀ p ∈ ps, p.isPending = true) :
    ps.map Participant.settled = ps.map Participant.rolledBack :=
  List.map_congr_left fun p hp => Participant.settled_of_pending (h p hp)

/-- Nobody is pending after a round of rollbacks. -/
theorem Participant.settled_not_pending {H : Type} (p : Participant H) :
    p.settled.isPending = false := by
  cases hp : p.isPending with
  | false => rw [Participant.settled_of_not_pending hp, hp]
  | true =>
    rw [Participant.settled_of_pending hp]
    rfl

end Settled

/-! ## A scope that was not completed yet -/

/-- A blocking scope of which no completion was attempted. -/
structure Unattempted (u : Usage) : Prop where
  attempted : u.scope.completeAttempted = false
  disposing : u.scope.state = .opened → u.scope.disposing = false

/-- A use that is no completion leaves the completion unattempted. -/
theorem unattempted_step (u : Usage) (use : Use) (huse : use.isComplete = false)
    (h : Unattempted u) : Unattempted (u.step .blocking use) := by
  cases use with
  | complete answers token => cases huse
  | enlist applicant offered =>
    have hstep := enlistStep u applicant offered
    simp only [Usage.step]
    generalize u.enlist applicant offered = r at hstep ⊢
    cases hstep <;> exact ⟨h.attempted, h.disposing⟩
  | dispose answers token =>
    have hstep := disposeStep u .blocking answers token
    simp only [Usage.step]
    generalize u.dispose .blocking answers token = r at hstep ⊢
    cases hstep with
    | again disposed => exact h
    | quiet state needs => exact ⟨h.attempted, fun hopen => by cases hopen⟩
    | through needs => exact ⟨h.attempted, fun hopen => by cases hopen⟩
    | stopped needs split pending handle stops => exact absurd stops Token.never_stops
  | outside event => exact ⟨h.attempted, h.disposing⟩

/-- The gate of completion is open until the first completion. -/
theorem Unattempted.obstacle {u : Usage} (h : Unattempted u) (hopen : u.scope.state = .opened) :
    u.scope.completeObstacle = none :=
  (completeObstacle_eq_none_iff _).mpr ⟨hopen, h.disposing hopen, h.attempted⟩

/-! ## A scope closed to enlistment and completion -/

section Refused

variable {u : Usage}

/-- A scope that takes no participant says why, and calls no adapter. -/
theorem enlist_refused (hclosed : u.scope.enlistObstacle ≠ none) (applicant : Applicant)
    (offered : Option AmbientRef) :
    ∃ reason, u.enlist applicant offered = (.error (.state "enlist" reason), u) := by
  have hstep := enlistStep u applicant offered
  generalize u.enlist applicant offered = r at hstep ⊢
  cases hstep with
  | refused plan =>
    cases plan with
    | @refused reason obstacle => exact ⟨reason, rfl⟩
    | inactive obstacle mode ended => exact absurd obstacle hclosed
  | notJoined plan join => exact absurd plan.obstacle hclosed
  | joined plan join => exact absurd plan.obstacle hclosed
  | notBegun plan begin => exact absurd plan.obstacle hclosed
  | begun plan begin => exact absurd plan.obstacle hclosed

/-- A scope that takes no participant is not completed either, and commits nothing. -/
theorem complete_refused (hclosed : u.scope.enlistObstacle ≠ none) (discipline : Discipline)
    (answers : Answers) (token : Option Token) :
    ∃ reason, u.complete discipline answers token = (.error (.state "complete" reason), u) := by
  have hrefused : u.scope.completeObstacle ≠ none := fun hopen =>
    hclosed ((completable_iff _).mp hopen)
  have hstep := completeStep u discipline answers token fun hopen => absurd hopen hrefused
  generalize u.complete discipline answers token = r at hstep ⊢
  cases hstep with
  | @refused reason obstacle => exact ⟨reason, rfl⟩
  | quiet obstacle mode => exact absurd obstacle hrefused
  | through obstacle mode commits => exact absurd obstacle hrefused
  | halted obstacle mode split commits handle halts => exact absurd obstacle hrefused

end Refused

/-! ## After a completion -/

/-- A scope with nobody to commit or roll back, closed to enlistment and completion. -/
structure Idle (u : Usage) : Prop where
  obstacle : u.scope.enlistObstacle ≠ none
  pending : ∀ p ∈ u.scope.participants, p.isPending = false

namespace Idle

variable {u : Usage}

/-- There is no participant to stop a disposal at. -/
theorem not_pending (h : Idle u) {ps rest : List (Participant Nat)} {p : Participant Nat}
    (split : u.scope.participants = ps ++ p :: rest) (pending : p.isPending = true) : False := by
  have hp : p ∈ u.scope.participants := by
    rw [split]
    exact List.mem_append_right ps List.mem_cons_self
  cases pending.symm.trans (h.pending p hp)

/-- A disposal meets no rollback to call, and none that fails. -/
theorem rollbacks_eq_nil (h : Idle u) (answers : Answers) :
    u.scope.participants.flatMap (rollbackCall answers) = [] ∧
      u.scope.participants.flatMap (rollbackFailure answers) = [] := by
  simp only [List.flatMap_eq_nil_iff]
  exact ⟨fun p hp => rollbackCall_of_not_pending answers (h.pending p hp),
    fun p hp => rollbackFailure_of_not_pending answers (h.pending p hp)⟩

/-- A disposal of a scope that has nothing to roll back calls no rollback. -/
theorem dispose (h : Idle u) (discipline : Discipline) (answers : Answers)
    (token : Option Token) :
    (u.dispose discipline answers token).1 = .ok () ∧
      rollbacks (u.dispose discipline answers token).2.calls = rollbacks u.calls := by
  have hreleases : rollbacks (u.calls ++ releaseCalls u.scope.participants) = rollbacks u.calls := by
    rw [rollbacks_append, rollbacks_releaseCalls, List.append_nil]
  obtain ⟨hcalls, hfailures⟩ := h.rollbacks_eq_nil answers
  have hstep := disposeStep u discipline answers token
  generalize u.dispose discipline answers token = r at hstep ⊢
  cases hstep with
  | again disposed => exact ⟨rfl, rfl⟩
  | quiet state needs => exact ⟨rfl, hreleases⟩
  | through needs =>
    rw [hcalls, hfailures, List.append_nil]
    exact ⟨rfl, hreleases⟩
  | stopped needs split pending handle stops => exact (h.not_pending split pending).elim

theorem spent (h : Idle u) (discipline : Discipline) : Spent discipline u where
  enlist := enlist_refused h.obstacle
  complete := complete_refused h.obstacle discipline
  dispose := h.dispose discipline

end Idle

/-- Released participants are not pending. -/
theorem idle_closed (u : Usage) (ps : List (Participant Nat)) (disposing : Bool)
    (calls : List Call) : Idle { u with scope := closed u.scope ps disposing, calls } where
  obstacle hopen := by
    obtain ⟨hstate, -, -⟩ := (enlistObstacle_eq_none_iff _).mp hopen
    cases hstate
  pending := List.forall_mem_map.mpr fun p _ => Bool.and_false _

/-- No use brings an idle scope back to life. -/
theorem idle_step (discipline : Discipline) (u : Usage) (use : Use) (h : Idle u) :
    Idle (u.step discipline use) := by
  cases use with
  | enlist applicant offered =>
    obtain ⟨reason, hsame⟩ := enlist_refused h.obstacle applicant offered
    simp only [Usage.step, hsame]
    exact h
  | complete answers token =>
    obtain ⟨reason, hsame⟩ := complete_refused h.obstacle discipline answers token
    simp only [Usage.step, hsame]
    exact h
  | dispose answers token =>
    have hstep := disposeStep u discipline answers token
    simp only [Usage.step]
    generalize u.dispose discipline answers token = r at hstep ⊢
    cases hstep with
    | again disposed => exact h
    | quiet state needs => exact idle_closed u _ _ _
    | through needs => exact idle_closed u _ _ _
    | stopped needs split pending handle stops => exact (h.not_pending split pending).elim
  | outside event => exact ⟨h.obstacle, h.pending⟩

/-- A scope that is done stays so, whatever is done with it. -/
theorem spent_run {u : Usage} (h : Idle u) (discipline : Discipline) (later : List Use) :
    Spent discipline (u.run discipline later) :=
  (Usage.run_induction (idle_step discipline) h later).spent discipline

/-! ## What a completion leaves -/

/-- A completion halted at a participant: those before it stay committed, and from it on each was
rolled back once, in order. -/
structure HaltedAt (discipline : Discipline) (answers : Answers) (u : Usage) (k : Nat) (halt : Halt)
    (result : Except TransactionError Unit × Usage) : Prop where
  place : k < u.scope.participants.length
  outcome : ∃ p : Participant Nat, u.scope.participants[k]? = some p ∧
    result.1 = .error (halt.error p.name k)
  calls : result.2.calls = u.calls ++ commitsOf answers (List.range k) ++ halt.calls k ++
    rollbacksOf answers (List.range' k (u.scope.participants.length - k))
  participants : result.2.scope.participants =
    (u.scope.participants.take k).map Participant.committed ++
      (u.scope.participants.drop k).map Participant.rolledBack
  state : result.2.scope.state = .opened
  after : ∀ later, Spent discipline (result.2.run discipline later)

section Completed

variable {discipline : Discipline} {answers : Answers} {u : Usage} {ps : List (Participant Nat)}

/-- Committing participants, by the numbers of their transactions. -/
theorem answered_of_commits (hhandles : handles ps = List.range ps.length)
    (hcommits : ∀ p ∈ ps, p.Commits answers) : ∀ i, i < ps.length → answers.commit i = .ok () := by
  intro i hi
  have hmem : i ∈ handles ps := by
    rw [hhandles]
    exact List.mem_range.mpr hi
  obtain ⟨p, hp, hhandle⟩ := List.mem_filterMap.mp hmem
  exact hcommits p hp i hhandle

/-- If every commit succeeds, everyone is committed and the scope is completed. -/
theorem allCommitted_through (hsound : Sound u) (h : Ledger discipline u)
    (obstacle : u.scope.completeObstacle = none) (mode : u.scope.mode = some .own)
    (commits : ∀ p ∈ u.scope.participants, p.Commits answers) :
    AllCommitted answers u
      (.ok (),
        { u with
          scope := { u.scope with
            completeAttempted := true
            state := .completed
            participants := u.scope.participants.map Participant.committed }
          calls := u.calls ++ u.scope.participants.flatMap (commitCall answers) }) := by
  obtain ⟨hstate, -, -⟩ := (completeObstacle_eq_none_iff _).mp obstacle
  have hopen := not_disposed hstate
  have hhandles := h.handles_eq hsound hopen
  rw [h.numbered, if_pos mode] at hhandles
  exact
    { answered := answered_of_commits hhandles commits
      outcome := rfl
      calls := by rw [commitCalls_eq, hhandles]
      participants := rfl
      state := rfl }

/-- A scope without participants completes without a call. -/
theorem allCommitted_quiet (hnone : u.scope.participants = []) :
    AllCommitted answers u
      (.ok (), { u with scope := { u.scope with completeAttempted := true, state := .completed } })
    where
  answered i hi := by
    rw [hnone] at hi
    cases hi
  outcome := rfl
  calls := by
    rw [hnone]
    exact (List.append_nil _).symm
  participants := by simp only [hnone, List.map_nil]
  state := rfl

/-- Nobody is pending in a completed scope. -/
theorem idle_completed {calls : List Call} (hnone : ∀ p ∈ ps, p.isPending = false) :
    Idle { u with
      scope := { u.scope with completeAttempted := true, state := .completed, participants := ps }
      calls } where
  obstacle hopen := by
    obtain ⟨hstate, -, -⟩ := (enlistObstacle_eq_none_iff _).mp hopen
    cases hstate
  pending := hnone

/-- Nobody is pending after a completion that failed. -/
theorem idle_halted {done rest : List (Participant Nat)} {p : Participant Nat} {calls : List Call} :
    Idle { u with
      scope := { u.scope with
        completeAttempted := true
        participants := done.map Participant.committed ++ (p :: rest).map Participant.settled }
      calls } where
  obstacle hopen := by
    obtain ⟨-, -, hattempted⟩ := (enlistObstacle_eq_none_iff _).mp hopen
    cases hattempted
  pending := by
    simp only [List.forall_mem_append, List.forall_mem_map]
    exact ⟨fun q _ => rfl, fun q _ => q.settled_not_pending⟩

/-- A completion that halts has committed everyone before, and settles everyone from there on. -/
theorem haltedAt (hsound : Sound u) (h : Ledger discipline u) {done rest : List (Participant Nat)}
    {p : Participant Nat} {i : Nat} {halt : Halt} (obstacle : u.scope.completeObstacle = none)
    (mode : u.scope.mode = some .own) (split : u.scope.participants = done ++ p :: rest)
    (handle : p.handle = some i) :
    HaltedAt discipline answers u done.length halt
      (.error (halt.error p.name done.length),
        { u with
          scope := { u.scope with
            completeAttempted := true
            participants := done.map Participant.committed ++
              (p :: rest).map Participant.settled }
          calls := u.calls ++ done.flatMap (commitCall answers) ++ halt.calls i ++
            (p :: rest).flatMap (rollbackCall answers) }) := by
  obtain ⟨hstate, -, -⟩ := (completeObstacle_eq_none_iff _).mp obstacle
  obtain ⟨hdone, hrest⟩ := h.cut hsound (not_disposed hstate) mode split
  have hpending := hsound.pending obstacle mode
  rw [split] at hpending
  obtain ⟨-, hfrom⟩ := List.forall_mem_append.mp hpending
  obtain rfl := h.place split handle
  have hlength : u.scope.participants.length - done.length = (p :: rest).length := by
    rw [split, List.length_append]
    omega
  exact
    { place := by
        rw [split, List.length_append, List.length_cons]
        omega
      outcome := by
        refine ⟨p, ?_, rfl⟩
        rw [split, List.getElem?_append_right (Nat.le_refl _), Nat.sub_self]
        rfl
      calls := by
        rw [commitCalls_eq, rollbackCalls_eq answers hfrom, hdone, hrest, hlength]
      participants := by
        rw [split, List.take_left' rfl, List.drop_left' rfl, map_settled_of_pending hfrom]
      state := hstate
      after := spent_run idle_halted discipline }

/-- Without a token a completion halts at a commit that fails. -/
theorem HaltedAt.failedAt {k : Nat} {source : ParticipantError}
    {result : Except TransactionError Unit × Usage}
    (h : HaltedAt .blocking answers u k (.failed source) result)
    (before : ∀ i, i < k → answers.commit i = .ok ()) (failed : answers.commit k = .error source) :
    FailedAt answers u k source result where
  place := h.place
  before := before
  failed := failed
  outcome := h.outcome
  calls := by
    rw [h.calls, List.range_succ]
    simp only [commitsOf, Halt.calls, List.map_append, List.map_cons, List.map_nil, failed,
      List.append_assoc]
  participants := h.participants
  state := h.state
  after := h.after

end Completed

/-! ## The main statement -/

/-- The first completion of an open blocking scope whose participants are in transactions of their
own, numbered in the order of enlistment: either every commit succeeds, or one is the first to fail. -/
theorem complete_blocking_run (id : String) (options : ScopeOptions) (ambients : Ambients)
    (uses : List Use) (hfirst : ∀ use ∈ uses, use.isComplete = false) (u : Usage)
    (hu : u = (Usage.start id options ambients).run .blocking uses)
    (hopen : u.scope.state = .opened) (hown : u.scope.ambient = none) (answers : Answers) :
    let result := u.complete .blocking answers none
    u.scope.participants.map Participant.handle =
        (List.range u.scope.participants.length).map some ∧
      (AllCommitted answers u result ∨ ∃ k source, FailedAt answers u k source result) ∧
      ¬ (AllCommitted answers u result ∧ ∃ k source, FailedAt answers u k source result) := by
  intro result
  have hsound : Sound u := hu ▸ sound_run .blocking id options ambients uses
  have h : Ledger .blocking u := hu ▸ ledger_run .blocking id options ambients uses
  have hun : Unattempted u := hu ▸ Usage.run_induction_mem
    (fun v use huse => unattempted_step v use (hfirst use huse)) ⟨rfl, fun _ => rfl⟩
  have hobstacle := hun.obstacle hopen
  have hnone (hmode : u.scope.mode ≠ some .own) : u.scope.participants = [] := by
    cases hset : u.scope.mode with
    | none => exact hsound.unset.mp hset
    | some mode =>
      cases mode with
      | own => exact absurd hset hmode
      | ambient place =>
        simp only [ambient, hset] at hown
        cases hown
  refine ⟨?_, ?_, ?_⟩
  · by_cases hmode : u.scope.mode = some .own
    · exact h.map_handle hsound (not_disposed hopen) hmode
    · rw [hnone hmode]
      rfl
  · have hstep := completeStep u .blocking answers none hsound.pending
    change CompleteStep answers .never u result at hstep
    generalize result = r at hstep ⊢
    cases hstep with
    | refused obstacle => cases hobstacle.symm.trans obstacle
    | quiet obstacle mode => exact .inl (allCommitted_quiet (hnone mode))
    | through obstacle mode commits =>
      exact .inl (allCommitted_through hsound h obstacle mode commits)
    | @halted done rest p i halt obstacle mode split commits handle halts =>
      cases halt with
      | failed source =>
        obtain ⟨-, -, hfailed⟩ := halts
        obtain ⟨hdone, -⟩ := h.cut hsound (not_disposed hopen) mode split
        obtain rfl := h.place split handle
        exact .inr ⟨done.length, source, (haltedAt hsound h obstacle mode split handle).failedAt
          (answered_of_commits hdone commits) hfailed⟩
      | seen => cases halts
      | interrupted => cases halts.2
  · rintro ⟨hall, k, source, hfailed⟩
    cases (hall.answered k hfailed.place).symm.trans hfailed.failed

/-- Two connections, of which the second does not commit. -/
theorem complete_blocking_second_fails :
    let uses := [Use.enlist { name := "orders" } none, Use.enlist { name := "stock" } none]
    let u := (Usage.start "unit" {} []).run .blocking uses
    let answers : Answers :=
      { commit := fun i => if i = 1 then .error (.noActiveTransaction .commit) else .ok () }
    (∀ use ∈ uses, use.isComplete = false) ∧ u.scope.state = .opened ∧ u.scope.ambient = none ∧
      ∃ k source, FailedAt answers u k source (u.complete .blocking answers none) := by
  intro uses u answers
  have hfirst : ∀ use ∈ uses, use.isComplete = false := by
    simp [uses, Use.isComplete]
  refine ⟨hfirst, rfl, rfl, ?_⟩
  obtain ⟨-, hone, -⟩ := complete_blocking_run "unit" {} [] uses hfirst u rfl rfl rfl answers
  refine hone.resolve_left fun hall => ?_
  cases hall.answered 1 Nat.one_lt_two

end UnitOfWork.Scope
