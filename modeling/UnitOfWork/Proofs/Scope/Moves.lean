import UnitOfWork.Proofs.Logic
import UnitOfWork.Scope.Attempt

/-!
# Scopes whose host moves a state

Whatever the drivers answer, the operations of a scope do nothing but make the requests of their host. So
if every request moves the state of the drivers along a relation that leads on, every operation does:
enlistment, completion, disposal and drop under either discipline, and a whole attempt at a unit of work.
-/

set_option autoImplicit false

namespace UnitOfWork

variable {m : Type → Type} [Monad m] {σ H : Type}

/-- Both requests of an adapter move the state. -/
structure Adapter.Moves (L : Logic m σ) (R : σ → σ → Prop) (adapter : Adapter m H) : Prop where
  beginOwn : ∀ isolation, L.Moves R (adapter.beginOwn isolation)
  joinAmbient : ∀ found, L.Moves R (adapter.joinAmbient found)

namespace Scope

/-- Every request of a scope moves the state. -/
structure Host.Moves (L : Logic m σ) (R : σ → σ → Prop) (host : Host m H) : Prop
    extends Leading R where
  commit : ∀ handle, L.Moves R (host.commit handle)
  rollback : ∀ handle, L.Moves R (host.rollback handle)
  release : ∀ handle, L.Moves R (host.release handle)
  log : ∀ entry, L.Moves R (host.log entry)

/-- Every request of a scope under a token moves the state. -/
structure RacingHost.Moves (L : Logic m σ) (R : σ → σ → Prop) (host : RacingHost m H) : Prop
    extends Host.Moves L R host.toHost where
  isCancelled : L.Moves R host.isCancelled
  commitRacing : ∀ handle, L.Moves R (host.commitRacing handle)
  rollbackRacing : ∀ handle, L.Moves R (host.rollbackRacing handle)

variable {L : Logic m σ} {R : σ → σ → Prop}

namespace Host.Moves

variable {host : Host m H} (h : Host.Moves L R host)

include h

/-- A host that moves the state moves it under a token that never fires. -/
theorem uncancelled [LawfulMonad m] : RacingHost.Moves L R host.uncancelled where
  toMoves := h
  isCancelled := h.pure false
  commitRacing handle := Leading.map Race.finished (h.commit handle)
  rollbackRacing handle := Leading.map Race.finished (h.rollback handle)

/-- A line of the log is a request of the host. -/
theorem note (s : Scope H) (notice : Notice) : L.Moves R (host.note s notice) :=
  h.log _

/-- The lines about an enlistment are requests of the host. -/
theorem noteEnlisted (before : Scope H) (resolved : Notice) (name : String)
    (isolation : IsolationLevel) :
    L.Moves R (Scope.noteEnlisted host before resolved name isolation) := by
  unfold Scope.noteEnlisted
  split
  · exact h.bind (h.note before resolved) fun _ => h.note before _
  · exact h.note before _

/-- An enlistment moves the state, and is counted by one ambient transaction at most. -/
theorem enlisted {adapter : Adapter m H} (moves : Adapter.Moves L R adapter)
    (offered : Option AmbientRef) (ambients : Ambients) (s : Scope H) :
    L.Gives R (fun e => e.ambients = ambients ∨
        ∃ place, e.ambients = ambients.modify place Ambient.countEnlistment)
      (Scope.enlist host adapter offered ambients s) := by
  unfold Scope.enlist
  cases s.plan ambients adapter.name offered with
  | error e => exact h.gives_pure (.inl rfl)
  | ok plan =>
    cases plan with
    | ambient place found =>
      refine h.gives_bind (moves.joinAmbient found) fun outcome => ?_
      cases outcome with
      | error source => exact h.gives_pure (.inl rfl)
      | ok =>
        exact h.gives_bind (h.noteEnlisted s _ _ _) fun _ => h.gives_pure (.inr ⟨place, rfl⟩)
    | own isolation =>
      refine h.gives_bind (moves.beginOwn isolation) fun outcome => ?_
      cases outcome with
      | error source => exact h.gives_bind (h.note s _) fun _ => h.gives_pure (.inl rfl)
      | ok handle =>
        exact h.gives_bind (h.noteEnlisted s _ _ _) fun _ => h.gives_pure (.inl rfl)

/-- So an enlistment moves the state. -/
theorem enlist {adapter : Adapter m H} (moves : Adapter.Moves L R adapter)
    (offered : Option AmbientRef) (ambients : Ambients) (s : Scope H) :
    L.Moves R (Scope.enlist host adapter offered ambients s) :=
  (h.enlisted moves offered ambients s).moves

theorem recordRollback (s : Scope H) (p : Participant H) (outcome : Except ParticipantError Unit) :
    L.Moves R (Scope.recordRollback host s p outcome) := by
  cases outcome with
  | ok => exact h.bind (h.note s _) fun _ => h.pure _
  | error source => exact h.bind (h.note s _) fun _ => h.pure _

/-- A round of rollbacks moves the state, by induction on the participants. -/
theorem rollBackEach (s : Scope H) (ps : List (Participant H)) :
    L.Moves R (Scope.rollBackEach host s ps) := by
  induction ps with
  | nil => exact h.pure _
  | cons p rest ih =>
    unfold Scope.rollBackEach
    split
    · refine h.bind (h.rollback _) fun outcome => ?_
      refine h.bind (h.recordRollback s p outcome) fun _ => h.bind ih fun _ => h.pure _
    · exact h.bind ih fun _ => h.pure _

/-- Releasing every handle moves the state. -/
theorem releaseAll (s : Scope H) : L.Moves R (Scope.releaseAll host s) :=
  h.bind (h.forM h.release _) fun _ => h.pure _

/-- The end of a completion is one line of the log. -/
theorem finishComplete (s : Scope H) :
    L.Moves R (Scope.finishComplete host s) :=
  h.bind (h.note s _) fun _ => h.pure _

/-! ### The blocking discipline -/

/-- A round of commits moves the state, also where it halts and rolls back. -/
theorem commitEach (s : Scope H) (index : Nat) (ps : List (Participant H)) :
    L.Moves R (Blocking.commitEach host s index ps) := by
  induction ps generalizing index with
  | nil => exact h.pure _
  | cons p rest ih =>
    unfold Blocking.commitEach
    cases p.handle with
    | none => exact h.bind (ih _) fun _ => h.pure _
    | some handle =>
      refine h.bind (h.commit handle) fun outcome => ?_
      cases outcome with
      | ok => exact h.bind (h.note s _) fun _ => h.bind (ih _) fun _ => h.pure _
      | error source =>
        exact h.bind (h.note s _) fun _ => h.bind (h.rollBackEach s _) fun _ => h.pure _

/-- So does a completion. -/
theorem complete (s : Scope H) :
    L.Moves R (Blocking.complete host s) := by
  unfold Blocking.complete
  cases s.beginComplete with
  | error e => exact h.pure _
  | ok s =>
    show L.Moves R (ite _ _ _)
    split
    · refine h.bind (h.commitEach s 0 _) fun r => ?_
      obtain ⟨failure, participants⟩ := r
      cases failure with
      | some e => exact h.pure _
      | none => exact h.finishComplete _
    · exact h.finishComplete s

/-- The end of a disposal. -/
theorem close (s : Scope H) (failures : List RollbackFailure) :
    L.Moves R (do
      let s ← Scope.releaseAll host s
      host.note s .disposed
      Pure.pure (disposal failures, s.markDisposed)) :=
  h.bind (h.releaseAll s) fun s => h.bind (h.note s _) fun _ => h.pure _

/-- So does a disposal. -/
theorem dispose (s : Scope H) : L.Moves R (Blocking.dispose host s) := by
  unfold Blocking.dispose
  split
  · exact h.pure _
  · split
    · exact h.bind (h.rollBackEach s _) fun r => h.close _ r.1
    · exact h.bind (h.pure _) fun r => h.close _ r.1

/-- So does a drop, which disposes of the scope. -/
theorem drop (s : Scope H) : L.Moves R (Blocking.drop host s) := by
  refine h.bind (h.dispose s) fun r => ?_
  obtain ⟨outcome, s⟩ := r
  cases outcome with
  | ok => exact h.pure s
  | error e => exact h.bind (h.note s _) fun _ => h.pure s

/-! ### The suspending discipline -/

/-- A suspending drop only releases, and moves the state. -/
theorem suspendingDrop (s : Scope H) :
    L.Moves R (Suspending.drop host s) := by
  unfold Suspending.drop
  split
  · exact h.pure s
  · split
    · exact h.bind (h.note s _) fun _ => h.releaseAll s
    · exact h.releaseAll s

end Host.Moves

namespace RacingHost.Moves

variable {host : RacingHost m H} (h : RacingHost.Moves L R host)

include h

/-- A completion that the token stops moves the state by its rollbacks. -/
theorem cancelCommit (s : Scope H) (index : Nat) (p : Participant H) (rest : List (Participant H))
    (outcomeUnknown : Bool) :
    L.Moves R (Suspending.cancelCommit host s index p rest outcomeUnknown) :=
  h.bind (h.note s _) fun _ => h.bind (h.rollBackEach s _) fun _ => h.pure _

/-- A round of commits under a token moves the state, wherever the token stops it. -/
theorem commitEach (s : Scope H) (index : Nat) (ps : List (Participant H)) :
    L.Moves R (Suspending.commitEach host s index ps) := by
  induction ps generalizing index with
  | nil => exact h.pure _
  | cons p rest ih =>
    unfold Suspending.commitEach
    refine h.bind h.isCancelled fun fired => ?_
    cases fired with
    | true => exact h.cancelCommit s index p rest false
    | false =>
      simp only [Bool.false_eq_true, if_false]
      cases p.handle with
      | none => exact h.bind (ih _) fun _ => h.pure _
      | some handle =>
        refine h.bind (h.commitRacing handle) fun ended => ?_
        cases ended with
        | interrupted => exact h.cancelCommit s index p rest true
        | finished outcome =>
          cases outcome with
          | ok => exact h.bind (h.note s _) fun _ => h.bind (ih _) fun _ => h.pure _
          | error source =>
            exact h.bind (h.note s _) fun _ => h.bind (h.rollBackEach s _) fun _ => h.pure _

/-- So does a completion under a token. -/
theorem complete (s : Scope H) :
    L.Moves R (Suspending.complete host s) := by
  unfold Suspending.complete
  cases s.beginComplete with
  | error e => exact h.pure _
  | ok s =>
    show L.Moves R (ite _ _ _)
    split
    · refine h.bind (h.commitEach s 0 _) fun r => ?_
      obtain ⟨failure, participants⟩ := r
      cases failure with
      | some e => exact h.pure _
      | none => exact h.finishComplete _
    · exact h.finishComplete s

/-- A disposal that the token stops has only this to tell. -/
theorem cancelRollback (s : Scope H) (p : Participant H) (rest : List (Participant H)) (failed : Nat)
    (outcomeUnknown : Bool) :
    L.Moves R (Suspending.cancelRollback host s p rest failed outcomeUnknown) :=
  h.bind (h.note s _) fun _ => h.pure _

/-- A round of rollbacks under a token moves the state, wherever the token stops it. -/
theorem rollBackEachRacing (s : Scope H) (met : List RollbackFailure) (ps : List (Participant H)) :
    L.Moves R (Suspending.rollBackEach host s met ps) := by
  induction ps generalizing met with
  | nil => exact h.pure _
  | cons p rest ih =>
    unfold Suspending.rollBackEach
    split
    · refine h.bind h.isCancelled fun fired => ?_
      cases fired with
      | true => exact h.cancelRollback s p rest _ false
      | false =>
        simp only [Bool.false_eq_true, if_false]
        refine h.bind (h.rollbackRacing _) fun ended => ?_
        cases ended with
        | interrupted => exact h.cancelRollback s p rest _ true
        | finished outcome =>
          exact h.bind (h.recordRollback s p outcome) fun _ => h.bind (ih _) fun _ => h.pure _
    · exact h.bind (ih _) fun _ => h.pure _

/-- So does a disposal under a token. -/
theorem dispose (s : Scope H) :
    L.Moves R (Suspending.dispose host s) := by
  unfold Suspending.dispose
  split
  · exact h.pure _
  · cases needs : s.beginDispose.needsRollback with
    | true =>
      simp only [needs, if_true]
      refine h.bind (h.rollBackEachRacing _ [] _) fun r => ?_
      obtain ⟨outcome, ps⟩ := r
      cases outcome with
      | stopped e => exact h.pure _
      | done failures => exact h.toMoves.close _ failures
    | false =>
      simp only [needs, Bool.false_eq_true, if_false]
      refine h.bind (h.pure _) fun r => ?_
      obtain ⟨outcome, ps⟩ := r
      cases outcome with
      | stopped e => exact h.pure _
      | done failures => exact h.toMoves.close _ failures

end RacingHost.Moves

/-! ### One attempt -/

section Attempts

variable {host : Host m H} (h : Host.Moves L R host) {adapters : List (Adapter m H)}
  (moves : ∀ adapter ∈ adapters, Adapter.Moves L R adapter)

include h moves

/-- Enlisting one adapter after another moves the state, up to the first that fails. -/
theorem Host.Moves.enlistEach (s : Scope H) :
    L.Moves R (Scope.enlistEach host adapters s) := by
  induction adapters generalizing s with
  | nil => exact h.pure _
  | cons adapter rest ih =>
    obtain ⟨first, hrest⟩ := List.forall_mem_cons.mp moves
    refine h.bind (h.enlist first none [] s) fun e => ?_
    obtain ⟨outcome, s, ambients⟩ := e
    cases outcome with
    | error e => exact h.pure _
    | ok handle => exact ih hrest s

/-- A whole attempt moves the state. -/
theorem Host.Moves.attempt (s : Scope H) :
    L.Moves R (Blocking.attempt host adapters s) := by
  refine h.bind (h.enlistEach moves s) fun r => ?_
  obtain ⟨outcome, s⟩ := r
  cases outcome with
  | error e => exact h.bind (h.drop s) fun _ => h.pure _
  | ok =>
    exact h.bind (h.complete s) fun _ => h.bind (h.dispose _) fun _ =>
      h.bind (h.drop _) fun _ => h.pure _

/-- So does one of the suspending discipline. -/
theorem Host.Moves.suspendingAttempt [LawfulMonad m] (s : Scope H) :
    L.Moves R (Suspending.attempt host adapters s) := by
  refine h.bind (h.enlistEach moves s) fun r => ?_
  obtain ⟨outcome, s⟩ := r
  cases outcome with
  | error e => exact h.bind (h.suspendingDrop s) fun _ => h.pure _
  | ok =>
    exact h.bind (h.uncancelled.complete s) fun _ => h.bind (h.uncancelled.dispose _) fun _ =>
      h.bind (h.suspendingDrop _) fun _ => h.pure _

end Attempts

end Scope

end UnitOfWork
