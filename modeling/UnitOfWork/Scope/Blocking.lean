import UnitOfWork.Scope.Enlist

/-!
# The blocking scope

Completion commits the participants in the order of enlistment. The first commit that fails stops it:
that participant and the later ones are rolled back, and the failure is returned. Disposal rolls back
what is still pending, goes on past failures, releases every handle and returns the failures together.
A dropped scope is disposed.

Each loop walks the list of participants and returns the list as it stands afterwards, so a law about
a loop is an induction on that list.
-/

set_option autoImplicit false

namespace UnitOfWork.Scope

variable {m : Type → Type} [Monad m] {H : Type}

/-- Log how a rollback went, and keep its failure. -/
def recordRollback (host : Host m H) (s : Scope H) (p : Participant H)
    (outcome : Except ParticipantError Unit) : m (List RollbackFailure) :=
  match outcome with
  | .ok () => do
    host.note s (.rolledBack p.index p.name)
    pure []
  | .error source => do
    host.note s (.rollbackFailed p.index p.name source)
    pure [⟨p.name, p.index, source⟩]

/-- Roll back every pending participant of these, past failures; the failures and the
participants afterwards. -/
def rollBackEach (host : Host m H) (s : Scope H) :
    List (Participant H) → m (List RollbackFailure × List (Participant H))
  | [] => pure ([], [])
  | p :: rest =>
    match p.isPending, p.handle with
    | true, some handle => do
      let outcome ← host.rollback handle
      let failure ← recordRollback host s p outcome
      let (failures, rest) ← rollBackEach host s rest
      pure (failure ++ failures, p.rolledBack :: rest)
    | _, _ => do
      let (failures, rest) ← rollBackEach host s rest
      pure (failures, p :: rest)

/-- Release the handles held, in the order of enlistment, and close the scope. -/
def releaseAll (host : Host m H) (s : Scope H) : m (Scope H) := do
  (handles s.participants).forM host.release
  pure s.released

/-- The result of a disposal that met these failures. -/
def disposal (failures : List RollbackFailure) : Except TransactionError Unit :=
  if failures.isEmpty then .ok () else .error (.rollback failures)

/-- Record that every commit has been made. -/
def finishComplete (host : Host m H) (s : Scope H) : m (Except TransactionError Unit × Scope H) := do
  host.note s (.completed s.participants.length)
  pure (.ok (), s.markCompleted)

namespace Blocking

/-- Commit each participant from an index on; the failure that stopped it, if any, and the
participants afterwards. -/
def commitEach (host : Host m H) (s : Scope H) :
    Nat → List (Participant H) → m (Option TransactionError × List (Participant H))
  | _, [] => pure (none, [])
  | index, p :: rest =>
    match p.handle with
    | none => do
      let (failure, rest) ← commitEach host s (index + 1) rest
      pure (failure, p :: rest)
    | some handle => do
      match ← host.commit handle with
      | .ok () =>
        host.note s (.committed index p.name)
        let (failure, rest) ← commitEach host s (index + 1) rest
        pure (failure, p.committed :: rest)
      | .error source =>
        host.note s (.commitFailed index p.name source)
        let (_, rest) ← rollBackEach host s (p :: rest)
        pure (some (.commit p.name index source), rest)

/-- Commit every participant. May be called once; in ambient mode nothing is committed. -/
def complete (host : Host m H) (s : Scope H) : m (Except TransactionError Unit × Scope H) :=
  match s.beginComplete with
  | .error e => pure (.error e, s)
  | .ok s =>
    if s.mode = some .own then do
      let (failure, participants) ← commitEach host s 0 s.participants
      let s := { s with participants }
      match failure with
      | some e => pure (.error e, s)
      | none => finishComplete host s
    else finishComplete host s

/-- Roll back what is pending, then release every handle. Once disposed, nothing happens. -/
def dispose (host : Host m H) (s : Scope H) : m (Except TransactionError Unit × Scope H) :=
  if s.state = .disposed then pure (.ok (), s)
  else do
    let (failures, participants) ←
      if s.needsRollback then rollBackEach host s s.participants
      else pure ([], s.participants)
    let s ← releaseAll host { s with participants }
    host.note s .disposed
    pure (disposal failures, s.markDisposed)

/-- Dispose of a scope nobody holds any more; a failure is logged. -/
def drop (host : Host m H) (s : Scope H) : m (Scope H) := do
  let (outcome, s) ← dispose host s
  match outcome with
  | .ok () => pure s
  | .error e =>
    host.note s (.dropDisposeFailed e)
    pure s

/-- How a blocking scope is shown. -/
def shown (s : Scope H) : String := s.shown "TransactionScope"

end Blocking

end UnitOfWork.Scope
