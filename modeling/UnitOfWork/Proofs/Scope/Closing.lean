import UnitOfWork.Proofs.Scope.Disciplines
import UnitOfWork.Proofs.Scope.Ledger

/-!
# What a blocking disposal does

`Closes` is a blocking disposal from beginning to end: whom it rolls back, which handles it gives up,
what it leaves of the participants and what it returns. Whatever happened to the scope before, a disposal
that finds it not yet disposed of does exactly that, and every later one does nothing.

Whom it rolls back depends on the whole history: nobody once the scope is completed or when it joined an
ambient transaction, and after a failed completion nobody is left. `Usage.outstanding` reads it off the
record, and the failures returned are those of the participants in it, one by one.
-/

set_option autoImplicit false

namespace UnitOfWork.Scope

open Participant (rollbackCall rollbackFailure)

/-! ## The statement -/

/-- The participants with a rollback to come: those still enlisted with a handle, while the scope is
open and has transactions of its own. -/
def Usage.outstanding (u : Usage) : List (Participant Nat) :=
  if u.scope.mode = some .own ∧ u.scope.state = .opened then
    u.scope.participants.filter Participant.isPending
  else []

/-- The failure to report of a participant whose rollback the driver refuses. -/
def Participant.refusal (answers : Answers) (p : Participant Nat) : Option RollbackFailure :=
  p.handle.bind fun i =>
    match answers.rollback i with
    | .ok () => none
    | .error source => some ⟨p.name, p.index, source⟩

/-- A participant of a scope that was disposed of. In a transaction of its own it was committed before,
or it counts as rolled back. -/
def Participant.atRest (own : Bool) (p : Participant Nat) : Participant Nat :=
  { p with
    standing := if own ∧ p.standing ≠ .committed then .rolledBack else p.standing
    handle := none }

/-- A blocking disposal from beginning to end. -/
structure Closes (answers : Answers) (u : Usage) (result : Except TransactionError Unit × Usage) :
    Prop where
  /-- Every participant has an index and a transaction to itself. -/
  places : ∀ i (p : Participant Nat), u.scope.participants[i]? = some p →
    p.index = i ∧ ∀ j, p.handle = some j → j = i
  /-- One rollback for everyone outstanding, whether the others fail or not, and then one release for
  every handle held, all in the order of enlistment. -/
  calls : result.2.calls = u.calls ++ rollbacksOf answers (handles u.outstanding) ++
    (handles u.scope.participants).map .release
  state : result.2.scope.state = .disposed
  participants : result.2.scope.participants =
    u.scope.participants.map (Participant.atRest (u.scope.mode = some .own))
  mode : result.2.scope.mode = u.scope.mode
  ambients : result.2.ambients = u.ambients
  ok_iff : result.1 = .ok () ↔
    ∀ p ∈ u.outstanding, ∀ i, p.handle = some i → answers.rollback i = .ok ()
  failures : result.1 ≠ .ok () →
    result.1 = .error (.rollback (u.outstanding.filterMap (Participant.refusal answers)))
  /-- Whatever is done with the scope, disposing of it again succeeds and does nothing. -/
  again : ∀ uses others token, (result.2.run .blocking uses).dispose .blocking others token =
    (.ok (), result.2.run .blocking uses)
  dropped : u.drop .blocking answers = result.2

/-! ## A round over those outstanding -/

section Round

variable (answers : Answers)

/-- A round of rollbacks calls those that are pending. -/
theorem rollbackCalls_filter (ps : List (Participant Nat)) :
    ps.flatMap (rollbackCall answers) =
      rollbacksOf answers (handles (ps.filter Participant.isPending)) := by
  have hpending : ∀ p ∈ ps.filter Participant.isPending, p.isPending = true := by
    intro p hp
    exact (List.mem_filter.mp hp).2
  rw [← rollbackCalls_eq answers hpending]
  clear hpending
  induction ps with
  | nil => rfl
  | cons p rest ih =>
    cases hp : p.isPending with
    | false => simp [hp, ih, rollbackCall_of_not_pending answers hp]
    | true => simp [hp, ih]

/-- The failure of a pending participant is the refusal of its driver. -/
theorem rollbackFailure_of_pending {p : Participant Nat} (hp : p.isPending = true) :
    p.rollbackFailure answers = (p.refusal answers).toList := by
  obtain ⟨i, hi⟩ := exists_handle_of_pending hp
  unfold Participant.refusal
  simp only [rollbackFailure, hp, hi, if_true, Option.toList_some, List.flatMap_cons,
    List.flatMap_nil, List.append_nil, Option.bind_some]
  cases answers.rollback i <;> rfl

/-- A round of rollbacks fails for those that are pending and refused. -/
theorem rollbackFailures_filter (ps : List (Participant Nat)) :
    ps.flatMap (rollbackFailure answers) =
      (ps.filter Participant.isPending).filterMap (Participant.refusal answers) := by
  induction ps with
  | nil => rfl
  | cons p rest ih =>
    cases hp : p.isPending with
    | false => simp [hp, ih, rollbackFailure_of_not_pending answers hp]
    | true =>
      rw [List.flatMap_cons, ih, rollbackFailure_of_pending answers hp, List.filter_cons_of_pos hp,
        List.filterMap_cons]
      cases p.refusal answers <;> rfl

/-- Nobody is refused exactly when every rollback succeeds. -/
theorem refusals_eq_nil_iff (ps : List (Participant Nat)) :
    ps.filterMap (Participant.refusal answers) = [] ↔
      ∀ p ∈ ps, ∀ i, p.handle = some i → answers.rollback i = .ok () := by
  rw [List.filterMap_eq_nil_iff]
  refine forall₂_congr fun p _ => ?_
  unfold Participant.refusal
  cases p.handle with
  | none => simp
  | some i =>
    cases h : answers.rollback i with
    | ok => simp [h]
    | error source => simp [h]

end Round

section AtRest

variable {p : Participant Nat}

theorem released_eq_atRest (h : p.standing ≠ .enlisted → p.standing = .committed) (own : Bool)
    (henlisted : p.standing = .enlisted → own = false) : p.released = p.atRest own := by
  unfold Participant.released Participant.atRest
  by_cases hstanding : p.standing = .enlisted
  · simp [henlisted hstanding]
  · simp [h hstanding]

/-- Who holds a handle is at rest after its rollback and its release. -/
theorem settled_released_eq_atRest (h : p.handle.isSome = true) :
    p.settled.released = p.atRest true := by
  cases hpending : p.isPending with
  | true =>
    have hstanding := (p.isPending_iff.mp hpending).1
    rw [Participant.settled_of_pending hpending]
    simp [Participant.released, Participant.rolledBack, Participant.atRest, hstanding]
  | false =>
    have henlisted : p.standing ≠ .enlisted := by
      intro hstanding
      rw [p.isPending_iff.mpr ⟨hstanding, h⟩] at hpending
      cases hpending
    rw [Participant.settled_of_not_pending hpending]
    unfold Participant.released Participant.atRest
    cases hstanding : p.standing with
    | enlisted => exact absurd hstanding henlisted
    | committed => rfl
    | rolledBack => rfl

end AtRest

/-! ## The disposal and what follows it -/

/-- A scope that was disposed of stays so. -/
theorem disposed_step (discipline : Discipline) (u : Usage) (use : Use)
    (h : u.scope.state = .disposed) : (u.step discipline use).scope.state = .disposed := by
  cases use with
  | enlist applicant offered =>
    show (u.enlist applicant offered).2.scope.state = .disposed
    rw [enlist_disposed h]
    exact h
  | complete answers token =>
    show (u.complete discipline answers token).2.scope.state = .disposed
    rw [complete_disposed h]
    exact h
  | dispose answers token =>
    show (u.dispose discipline answers token).2.scope.state = .disposed
    rw [dispose_disposed h]
    exact h
  | outside event => exact h

theorem disposed_run {discipline : Discipline} {u : Usage} (h : u.scope.state = .disposed)
    (uses : List Use) : (u.run discipline uses).scope.state = .disposed :=
  Usage.run_induction (P := fun u => u.scope.state = .disposed) (disposed_step discipline) h uses

section Disposal

variable {u : Usage} (answers : Answers)

theorem outstanding_of_needs (needs : u.scope.needsRollback = true) :
    u.outstanding = u.scope.participants.filter Participant.isPending :=
  if_pos ((needsRollback_iff _).mp needs)

theorem outstanding_of_not_needs (needs : u.scope.needsRollback = false) : u.outstanding = [] := by
  refine if_neg fun hopen => ?_
  rw [(needsRollback_iff _).mpr hopen] at needs
  cases needs

/-- Without a rollback to make, everyone is at rest once released. -/
theorem released_quiet (hsound : Sound u) (state : u.scope.state ≠ .disposed)
    (needs : u.scope.needsRollback = false) :
    u.scope.participants.map Participant.released =
      u.scope.participants.map (Participant.atRest (u.scope.mode = some .own)) := by
  apply List.map_congr_left
  intro p hp
  by_cases hmode : u.scope.mode = some .own
  · have hcompleted := completed_of_quiet hmode state needs
    have hcommitted := (hsound.own hmode).completed hcompleted p hp
    apply released_eq_atRest
    · exact fun _ => hcommitted
    · intro henlisted
      cases hcommitted.symm.trans henlisted
  · apply released_eq_atRest
    · intro hstanding
      exact absurd (hsound.enlisted hmode p hp).2 hstanding
    · exact fun _ => decide_eq_false hmode

/-- With rollbacks to make, everyone is at rest once rolled back and released. -/
theorem released_through (hsound : Sound u) (needs : u.scope.needsRollback = true) :
    (u.scope.participants.map Participant.settled).map Participant.released =
      u.scope.participants.map (Participant.atRest (u.scope.mode = some .own)) := by
  obtain ⟨hmode, hstate⟩ := (needsRollback_iff _).mp needs
  have hheld := (hsound.own hmode).held (not_disposed hstate)
  rw [List.map_map, decide_eq_true hmode]
  apply List.map_congr_left
  intro p hp
  exact settled_released_eq_atRest (hheld p hp)

/-- One equation for every disposal of a scope that was not disposed of. -/
theorem dispose_blocking_eq (hsound : Sound u) (hstate : u.scope.state ≠ .disposed) :
    ∃ ps disposing,
      ps.map Participant.released =
        u.scope.participants.map (Participant.atRest (u.scope.mode = some .own)) ∧
      u.dispose .blocking answers none =
        (disposal (u.outstanding.filterMap (Participant.refusal answers)),
          { u with
            scope := closed u.scope ps disposing
            calls := u.calls ++ rollbacksOf answers (handles u.outstanding) ++
              releaseCalls u.scope.participants }) := by
  have hstep := disposeStep u .blocking answers none
  generalize u.dispose .blocking answers none = result at hstep ⊢
  cases hstep with
  | again disposed => exact absurd disposed hstate
  | @quiet disposing state needs =>
    refine ⟨u.scope.participants, disposing, released_quiet hsound state needs, ?_⟩
    have hcalls : u.calls ++ rollbacksOf answers (handles []) = u.calls := List.append_nil u.calls
    rw [outstanding_of_not_needs needs, hcalls]
    rfl
  | @through disposing needs =>
    refine ⟨_, disposing, released_through hsound needs, ?_⟩
    rw [outstanding_of_needs needs, ← rollbackFailures_filter, ← rollbackCalls_filter]
  | stopped needs split pending handle stops => exact absurd stops Token.never_stops

end Disposal

/-! ## The main statement -/

/-- A blocking disposal of a scope that was not disposed of, after whatever was done with the scope. -/
theorem dispose_blocking_run (id : String) (options : ScopeOptions) (ambients : Ambients)
    (uses : List Use) (u : Usage) (hu : u = (Usage.start id options ambients).run .blocking uses)
    (hstate : u.scope.state ≠ .disposed) (answers : Answers) :
    Closes answers u (u.dispose .blocking answers none) := by
  have hsound : Sound u := hu ▸ sound_run .blocking id options ambients uses
  have h : Ledger .blocking u := hu ▸ ledger_run .blocking id options ambients uses
  have hdropped := u.drop_blocking answers none
  obtain ⟨ps, disposing, hrest, heq⟩ := dispose_blocking_eq answers hsound hstate
  rw [heq] at hdropped ⊢
  exact
    { places := fun i p hp => ⟨hsound.coherent.index i p hp, h.accounts.number i p hp⟩
      calls := rfl
      state := rfl
      participants := hrest
      mode := rfl
      ambients := rfl
      ok_iff := disposal_eq_ok.trans (refusals_eq_nil_iff answers _)
      failures := fun hfailed =>
        disposal_eq_error.mpr ⟨fun hnone => hfailed (disposal_eq_ok.mpr hnone), rfl⟩
      again := fun uses others token =>
        dispose_disposed (disposed_run rfl uses) .blocking others token
      dropped := hdropped }

/-- Three connections, of which the second refuses to be rolled back: the third is rolled back all the
same, and the one failure is reported. -/
theorem dispose_blocking_second_refused :
    let uses := [Use.enlist { name := "orders" } none, Use.enlist { name := "stock" } none,
      Use.enlist { name := "audit" } none]
    let u := (Usage.start "unit" {} []).run .blocking uses
    let answers : Answers :=
      { rollback := fun i => if i = 1 then .error (.unsupported "rollback") else .ok () }
    u.scope.state ≠ .disposed ∧ Closes answers u (u.dispose .blocking answers none) ∧
      handles u.outstanding = [0, 1, 2] ∧
      (u.dispose .blocking answers none).1 =
        .error (.rollback [⟨"stock", 1, .unsupported "rollback"⟩]) := by
  intro uses u answers
  have hopen : u.scope.state ≠ .disposed := by decide
  have hcloses := dispose_blocking_run "unit" {} [] uses u rfl hopen answers
  refine ⟨hopen, hcloses, rfl, ?_⟩
  apply hcloses.failures
  intro hok
  cases hcloses.ok_iff.mp hok _ (List.mem_cons_of_mem _ List.mem_cons_self) 1 rfl

end UnitOfWork.Scope
