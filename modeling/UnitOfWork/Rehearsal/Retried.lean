import UnitOfWork.Rehearsal.Stage
import UnitOfWork.Retry.Provider
import UnitOfWork.Retry.Rehearsal
import UnitOfWork.Scope.Attempt

/-!
# A retried unit of work over scripted connections

Every attempt enlists all connections of a stage in a scope of its own, completes and disposes. The
failures scripted for an attempt are armed before it begins; those it does not use stay armed.
-/

set_option autoImplicit false

namespace UnitOfWork.Rehearsal

/-- A failure to arm. -/
structure Armed where
  connection : Nat
  call : Call
  error : ParticipantError
deriving DecidableEq, Repr

/-- A unit of work to be retried. -/
structure Retried where
  retry : Retry.ProviderRetry
  rehearsal : Retry.Rehearsal
  names : List String
  /-- The failures of each attempt, the first attempt's first. -/
  failures : List (List Armed)

namespace Retried

/-- Arm the failures of a numbered attempt. -/
def arm (u : Retried) (attempt : Nat) (stage : Stage) : Stage :=
  ((u.failures[attempt - 1]?).getD []).foldl
    (fun stage f => stage.failNext f.connection f.call (some f.error)) stage

/-- A numbered attempt. -/
def attempt (u : Retried) (number : Nat) : StageM (Except TransactionError String) := do
  modify (u.arm number)
  let adapters := (List.range u.names.length).map (← get).adapter
  let s : Scope Nat := { id := s!"<scope:{number - 1}>" }
  let outcome ←
    if u.rehearsal.suspending then Scope.Suspending.attempt Stage.suspendingHost adapters s
    else Scope.Blocking.attempt Stage.blockingHost adapters s
  pure (outcome.map fun () => "committed")

/-- Retry the unit of work; the run and the stage after it. -/
def run (u : Retried) : LogM (Retry.Rehearsed TransactionError String × Stage) :=
  (u.rehearsal.run u.attempt (fun entry => Log.record entry) TransactionError.message
    u.retry.runBlocking u.retry.runSuspending : StageM _).run (Stage.ofNames u.names)

end Retried

end UnitOfWork.Rehearsal
