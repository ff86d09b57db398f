import UnitOfWork.Scope.Blocking

/-!
# The suspending scope

The suspending scope commits and rolls back in the same order, under a cancellation token. A token seen
before a call stops the loop there; a token that fires while a call waits leaves the outcome of that
call unknown. A stopped completion rolls back the rest without looking at the token. A stopped disposal
keeps the scope open with its handles, closed to everything but another disposal, which resumes at the
first participant still enlisted.

A scope that is dropped cannot wait for rollbacks: it only releases its handles.
-/

set_option autoImplicit false

namespace UnitOfWork.Scope

/-- How a call under a token ended. -/
inductive Race (α : Type) where
  | finished (value : α)
  /-- The token fired while the call was waiting. -/
  | interrupted
deriving DecidableEq, Repr

/-- What a suspending scope asks further: the token, and calls that race it. -/
structure RacingHost (m : Type → Type) (H : Type) extends Host m H where
  isCancelled : m Bool
  commitRacing : H → m (Race (Except ParticipantError Unit))
  rollbackRacing : H → m (Race (Except ParticipantError Unit))

variable {m : Type → Type} [Monad m] {H : Type}

/-- The host whose token never fires. -/
def Host.uncancelled (host : Host m H) : RacingHost m H where
  toHost := host
  isCancelled := pure false
  commitRacing h := Race.finished <$> host.commit h
  rollbackRacing h := Race.finished <$> host.rollback h

namespace Suspending

/-- Stop a completion at a participant and roll back from there on. -/
def cancelCommit (host : RacingHost m H) (s : Scope H) (index : Nat) (p : Participant H)
    (rest : List (Participant H)) (outcomeUnknown : Bool) :
    m (Option TransactionError × List (Participant H)) := do
  host.note s (.commitCancelled index p.name outcomeUnknown)
  let (_, after) ← rollBackEach host.toHost s (p :: rest)
  pure (some (.cancelled p.name index .commit outcomeUnknown), after)

/-- Commit each participant from an index on, under the token; what stopped it, if anything, and
the participants afterwards. -/
def commitEach (host : RacingHost m H) (s : Scope H) :
    Nat → List (Participant H) → m (Option TransactionError × List (Participant H))
  | _, [] => pure (none, [])
  | index, p :: rest => do
    if ← host.isCancelled then
      cancelCommit host s index p rest false
    else
      match p.handle with
      | none =>
        let (stop, rest) ← commitEach host s (index + 1) rest
        pure (stop, p :: rest)
      | some handle =>
        match ← host.commitRacing handle with
        | .finished (.ok ()) =>
          host.note s (.committed index p.name)
          let (stop, rest) ← commitEach host s (index + 1) rest
          pure (stop, p.committed :: rest)
        | .finished (.error source) =>
          host.note s (.commitFailed index p.name source)
          let (_, after) ← rollBackEach host.toHost s (p :: rest)
          pure (some (.commit p.name index source), after)
        | .interrupted => cancelCommit host s index p rest true

/-- Commit every participant, stopping when the token fires. May be called once; in ambient mode
nothing is committed and the token is not looked at. -/
def complete (host : RacingHost m H) (s : Scope H) : m (Except TransactionError Unit × Scope H) :=
  match s.beginComplete with
  | .error e => pure (.error e, s)
  | .ok s =>
    if s.mode = some .own then do
      let (stop, participants) ← commitEach host s 0 s.participants
      let s := { s with participants }
      match stop with
      | some e => pure (.error e, s)
      | none => finishComplete host.toHost s
    else finishComplete host.toHost s

/-- How a round of rollbacks under a token ended. -/
inductive Rollbacks where
  | done (failures : List RollbackFailure)
  | stopped (error : TransactionError)
deriving DecidableEq, Repr

/-- Stop a disposal at a participant. -/
def cancelRollback (host : RacingHost m H) (s : Scope H) (p : Participant H)
    (rest : List (Participant H)) (failed : Nat) (outcomeUnknown : Bool) :
    m (Rollbacks × List (Participant H)) := do
  host.note s (.disposeCancelled p.index p.name (pending (p :: rest)) failed outcomeUnknown)
  pure (.stopped (.cancelled p.name p.index .rollback outcomeUnknown), p :: rest)

/-- Roll back every pending participant of these, past failures, under the token. The failures met
so far are lost when the token stops the round. -/
def rollBackEach (host : RacingHost m H) (s : Scope H) :
    (met : List RollbackFailure) → List (Participant H) → m (Rollbacks × List (Participant H))
  | met, [] => pure (.done met, [])
  | met, p :: rest =>
    match p.isPending, p.handle with
    | true, some handle => do
      if ← host.isCancelled then
        cancelRollback host s p rest met.length false
      else
        match ← host.rollbackRacing handle with
        | .interrupted => cancelRollback host s p rest met.length true
        | .finished outcome =>
          let failure ← recordRollback host.toHost s p outcome
          let (round, rest) ← rollBackEach host s (met ++ failure) rest
          pure (round, p.rolledBack :: rest)
    | _, _ => do
      let (round, rest) ← rollBackEach host s met rest
      pure (round, p :: rest)

/-- Roll back what is pending, then release every handle, stopping when the token fires. A stopped
disposal can be resumed; once disposed, nothing happens. -/
def dispose (host : RacingHost m H) (s : Scope H) : m (Except TransactionError Unit × Scope H) :=
  if s.state = .disposed then pure (.ok (), s)
  else do
    let s := s.beginDispose
    let (round, participants) ←
      if s.needsRollback then rollBackEach host s [] s.participants
      else pure (.done [], s.participants)
    let s := { s with participants }
    match round with
    | .stopped e => pure (.error e, s)
    | .done failures =>
      let s ← releaseAll host.toHost s
      host.note s .disposed
      pure (disposal failures, s.markDisposed)

/-- Release the handles of a scope nobody holds any more. Work that is still pending is left to the
drivers, with a warning. -/
def drop (host : Host m H) (s : Scope H) : m (Scope H) :=
  if s.state = .disposed then pure s
  else do
    if s.needsRollback then host.note s (.droppedUndisposed (pending s.participants)) else pure ()
    releaseAll host s

/-- How a suspending scope is shown. -/
def shown (s : Scope H) : String := s.shown "AsyncTransactionScope"

end Suspending

end UnitOfWork.Scope
