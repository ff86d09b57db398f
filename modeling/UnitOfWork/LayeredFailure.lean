import UnitOfWork.Scope.Error

/-!
# Failures at any height

One operation may fail with a bare driver fault, a participant's failure or the failure of a whole unit
of work. A layered failure is any of them, judged and shown as the failure it is.
-/

set_option autoImplicit false

namespace UnitOfWork

/-- A failure of any layer. -/
inductive LayeredFailure where
  | driver (fault : Driver.Fault)
  | participant (error : ParticipantError)
  | transaction (error : TransactionError)
deriving DecidableEq, Repr

namespace LayeredFailure

def message : LayeredFailure → String
  | .driver fault => fault.text
  | .participant error => error.message
  | .transaction error => error.message

instance : Faulty LayeredFailure where
  code
    | .driver fault => Faulty.code fault
    | .participant error => Faulty.code error
    | .transaction error => Faulty.code error
  origin
    | .driver fault => Faulty.origin fault
    | .participant error => Faulty.origin error
    | .transaction error => Faulty.origin error

end LayeredFailure

end UnitOfWork
