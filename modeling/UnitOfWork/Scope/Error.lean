import UnitOfWork.Participant.Error
import UnitOfWork.Refusal

/-!
# Failures of a unit of work

A failed step names the participant and keeps the adapter's own failure, so that the code and the
origin of a driver fault show through to whoever decides on another attempt. A failed commit is the
one failure that puts data at risk: earlier participants stay committed.
-/

set_option autoImplicit false

namespace UnitOfWork

/-- A participant whose rollback failed. -/
structure RollbackFailure where
  participant : String
  index : Nat
  source : ParticipantError
deriving DecidableEq, Repr

namespace RollbackFailure

def message (f : RollbackFailure) : String :=
  s!"rollback of participant '{f.participant}' (#{f.index}) failed"

def causes (f : RollbackFailure) : List String := f.source.message :: f.source.causes

end RollbackFailure

/-- Why a step of a unit of work failed. -/
inductive TransactionError where
  /-- The step is not allowed in the present state. -/
  | state (operation reason : String)
  | noActiveTransaction (participant : String) (phase : Phase)
  | begin (participant : String) (source : ParticipantError)
  | ambientEnlist (participant ambient : String) (source : ParticipantError)
  /-- Earlier participants stay committed; this one and the later ones were rolled back. -/
  | commit (participant : String) (index : Nat) (source : ParticipantError)
  | rollback (failures : List RollbackFailure)
  /-- The token fired; whether a call was in flight that may or may not have taken effect. -/
  | cancelled (participant : String) (index : Nat) (phase : Phase) (outcomeUnknown : Bool)
  | refused (refusal : Refusal)
deriving DecidableEq, Repr

namespace TransactionError

def message : TransactionError → String
  | .state operation reason => s!"cannot {operation}: {reason}"
  | .noActiveTransaction participant phase =>
    s!"no active transaction for participant '{participant}' during {phase.text}"
  | .begin participant _ => s!"failed to begin transaction for participant '{participant}'"
  | .ambientEnlist participant ambient _ =>
    s!"participant '{participant}' could not enlist in ambient transaction {ambient}"
  | .commit participant index _ => s!"commit failed for participant '{participant}' (#{index})"
  | .rollback failures => s!"rollback failed for {failures.length} participant(s)"
  | .cancelled participant index phase outcomeUnknown =>
    s!"{phase.text} cancelled at participant '{participant}' (#{index}), outcome unknown: " ++
      toString outcomeUnknown
  | .refused refusal => refusal.message

/-- The adapter's failure behind a begin, an enlistment or a commit. -/
def source : TransactionError → Option ParticipantError
  | .begin _ source => some source
  | .ambientEnlist _ _ source => some source
  | .commit _ _ source => some source
  | _ => none

def causes (e : TransactionError) : List String :=
  match e.source with
  | some source => source.message :: source.causes
  | none => []

def isCancelled : TransactionError → Bool
  | .cancelled .. => true
  | _ => false

/-- A whole unit of work is retried by the fault of the adapter that failed it. -/
instance : Faulty TransactionError where
  code e := e.source.bind Faulty.code
  origin e := e.source.bind Faulty.origin

instance : Classified TransactionError where
  classify
    | .commit .. => ⟨false, .critical, true, none⟩
    | .rollback _ => ⟨false, .critical, false, none⟩
    | .cancelled .. => ⟨false, .warning, false, none⟩
    | .refused refusal => classify refusal
    | _ => .plain

end TransactionError

end UnitOfWork
