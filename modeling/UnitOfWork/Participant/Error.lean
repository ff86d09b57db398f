import UnitOfWork.Driver.Fault

/-!
# Participant failures

A participant is one connection taking part in a unit of work. Its adapter fails in three ways: there
is no transaction to act on, the connection cannot do what is asked, or its driver reported a fault.
Only the last carries a code and an origin. `causes` are the texts of what stands behind a failure,
the nearest first.
-/

set_option autoImplicit false

namespace UnitOfWork

/-- A step in the life of a transaction. -/
inductive Phase where
  | begin
  | commit
  | rollback
deriving DecidableEq, Repr

def Phase.text : Phase → String
  | .begin => "begin"
  | .commit => "commit"
  | .rollback => "rollback"

/-- Why an adapter call failed. -/
inductive ParticipantError where
  | noActiveTransaction (phase : Phase)
  | unsupported (capability : String)
  | driver (fault : Driver.Fault)
deriving DecidableEq, Repr

namespace ParticipantError

def message : ParticipantError → String
  | .noActiveTransaction phase => s!"no active transaction to {phase.text}"
  | .unsupported capability => s!"{capability} is not supported by this connection"
  | .driver fault => s!"driver error: {fault.text}"

/-- The failure of a connection that joins no ambient transaction. -/
def ambientUnsupported : ParticipantError := .unsupported "ambient enlistment"

/-- The texts of what stands behind a failure. -/
def causes : ParticipantError → List String
  | .driver fault => [fault.text]
  | _ => []

instance : Faulty ParticipantError where
  code
    | .driver fault => Faulty.code fault
    | _ => none
  origin
    | .driver fault => Faulty.origin fault
    | _ => none

end ParticipantError

end UnitOfWork
