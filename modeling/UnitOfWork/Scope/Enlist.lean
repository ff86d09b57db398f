import UnitOfWork.Participant.Adapter
import UnitOfWork.Scope.Notice

/-!
# Enlisting a participant

Enlisting plans, calls the adapter once, and records. A plan that fails calls no adapter, and an adapter
that fails leaves the scope and the ambient transactions as they were.
-/

set_option autoImplicit false

namespace UnitOfWork.Scope

/-- What a scope asks of the drivers of its participants, and of the log. -/
structure Host (m : Type → Type) (H : Type) where
  commit : H → m (Except ParticipantError Unit)
  rollback : H → m (Except ParticipantError Unit)
  release : H → m Unit
  log : Log.Entry → m Unit

variable {m : Type → Type} [Monad m] {H : Type}

/-- Log a thing that happened to a scope. -/
def Host.note (host : Host m H) (s : Scope H) (notice : Notice) : m Unit :=
  host.log (notice.entry s.id)

/-- The outcome of an enlistment: the handle, if a transaction was begun, or the failure; the scope
and the ambient transactions after it. -/
structure Enlisted (H : Type) where
  outcome : Except TransactionError (Option H)
  scope : Scope H
  ambients : Ambients

/-- Log the mode if this enlistment fixed it, then the new participant. -/
def noteEnlisted (host : Host m H) (before : Scope H) (resolved : Notice) (name : String)
    (isolation : IsolationLevel) : m Unit := do
  if before.mode.isNone then host.note before resolved else pure ()
  host.note before (.enlisted before.participants.length name isolation)

/-- Ask the adapter for what was planned, and record the participant if the adapter agrees. While the
adapter answers the scope is held, but the ambient transactions are not. -/
def carryOut (host : Host m H) (adapter : Adapter m H) (ambients : Ambients) (s : Scope H) :
    Plan → m (Enlisted H)
  | .ambient place found => do
    match ← adapter.joinAmbient found with
    | .error source =>
      pure ⟨.error (.ambientEnlist adapter.name found.id source), s, ambients⟩
    | .ok () =>
      noteEnlisted host s (.joinedAmbient found.id) adapter.name found.isolation
      pure ⟨.ok none, s.withAmbient adapter.name place found,
        ambients.modify place Ambient.countEnlistment⟩
  | .own isolation => do
    match ← adapter.beginOwn isolation with
    | .error source =>
      host.note s (.beginFailed adapter.name source)
      pure ⟨.error (.begin adapter.name source), s, ambients⟩
    | .ok handle =>
      noteEnlisted host s .wentOwn adapter.name isolation
      pure ⟨.ok (some handle), s.withOwn adapter.name isolation handle, ambients⟩

/-- Enlist the connection of an adapter, with the ambient transaction on offer. -/
def enlist (host : Host m H) (adapter : Adapter m H) (offered : Option AmbientRef)
    (ambients : Ambients) (s : Scope H) : m (Enlisted H) :=
  match s.plan ambients adapter.name offered with
  | .error e => pure ⟨.error e, s, ambients⟩
  | .ok plan => carryOut host adapter ambients s plan

end UnitOfWork.Scope
