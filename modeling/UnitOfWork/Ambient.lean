import UnitOfWork.Isolation
import UnitOfWork.Log
import UnitOfWork.Scope.Error

/-!
# Ambient transactions

An ambient transaction is owned by whoever began it. Units of work join it but never end it: its
status changes once, by its owner, and the only thing a unit of work changes is the count of
enlistments. Ambient transactions are kept in a store and named by their place in it, so several
holders of one place speak of the same transaction.
-/

set_option autoImplicit false

namespace UnitOfWork

inductive AmbientStatus where
  | active
  | committed
  | aborted
deriving DecidableEq, Repr

def AmbientStatus.text : AmbientStatus → String
  | .active => "active"
  | .committed => "committed"
  | .aborted => "aborted"

/-- An ambient transaction; its identity is drawn outside the library. -/
structure Ambient where
  id : String
  isolation : IsolationLevel
  status : AmbientStatus := .active
  /-- Participants enlisted so far, over all units of work. -/
  enlistments : Nat := 0
deriving DecidableEq, Repr

/-- The two ways an owner ends an ambient transaction. -/
inductive AmbientEnding where
  | complete
  | abort
deriving DecidableEq, Repr

namespace AmbientEnding

def text : AmbientEnding → String
  | .complete => "complete"
  | .abort => "abort"

def status : AmbientEnding → AmbientStatus
  | .complete => .committed
  | .abort => .aborted

end AmbientEnding

namespace Ambient

def isActive (a : Ambient) : Bool := a.status == .active

/-- End an ambient transaction; only an active one can be ended. -/
def finish (a : Ambient) (ending : AmbientEnding) : Except TransactionError Ambient :=
  if a.isActive then .ok { a with status := ending.status }
  else .error (.state ending.text s!"ambient transaction {a.id} is already {a.status.text}")

/-- One more participant. -/
def countEnlistment (a : Ambient) : Ambient := { a with enlistments := a.enlistments + 1 }

def startedEntry (a : Ambient) : Log.Entry :=
  ⟨.debug, "Ambient transaction started", [("ambient", a.id), ("isolation", a.isolation.sql)]⟩

def finishedEntry (a : Ambient) : Log.Entry :=
  ⟨.debug, "Ambient transaction finished", [("ambient", a.id), ("status", a.status.text)]⟩

end Ambient

/-- A place in a store of ambient transactions. -/
abbrev AmbientRef := Nat

/-- The ambient transactions begun so far, oldest first. -/
abbrev Ambients := List Ambient

end UnitOfWork
