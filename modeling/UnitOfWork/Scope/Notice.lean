import UnitOfWork.Log
import UnitOfWork.Scope.Record

/-!
# What a scope logs

A notice is one thing that happened to a scope. Its log entry always names the scope; participants are
named by index and name.
-/

set_option autoImplicit false

namespace UnitOfWork.Scope

/-- A thing that happened to a scope. -/
inductive Notice where
  | joinedAmbient (ambient : String)
  | wentOwn
  | enlisted (index : Nat) (name : String) (isolation : IsolationLevel)
  | beginFailed (name : String) (error : ParticipantError)
  | committed (index : Nat) (name : String)
  | commitFailed (index : Nat) (name : String) (error : ParticipantError)
  | commitCancelled (index : Nat) (name : String) (outcomeUnknown : Bool)
  | completed (participants : Nat)
  | rolledBack (index : Nat) (name : String)
  | rollbackFailed (index : Nat) (name : String) (error : ParticipantError)
  | disposeCancelled (index : Nat) (name : String) (pending failed : Nat) (outcomeUnknown : Bool)
  | disposed
  | dropDisposeFailed (error : TransactionError)
  | droppedUndisposed (pending : Nat)
deriving DecidableEq, Repr

namespace Notice

/-- The fields that name a participant. -/
def who (index : Nat) (name : String) : List (String × String) :=
  [("participant", toString index), ("name", name)]

def level : Notice → Log.Level
  | .completed _ => .info
  | .commitFailed .. => .error
  | .beginFailed .. => .warn
  | .commitCancelled .. => .warn
  | .rollbackFailed .. => .warn
  | .disposeCancelled .. => .warn
  | .dropDisposeFailed _ => .warn
  | .droppedUndisposed _ => .warn
  | _ => .debug

def message : Notice → String
  | .joinedAmbient _ => "Scope mode resolved"
  | .wentOwn => "Scope mode resolved"
  | .enlisted .. => "Participant enlisted"
  | .beginFailed .. => "Begin failed"
  | .committed .. => "Participant committed"
  | .commitFailed .. => "Commit failed, rolling back remaining participants"
  | .commitCancelled .. => "Complete cancelled, rolling back remaining participants"
  | .completed _ => "Scope completed"
  | .rolledBack .. => "Participant rolled back"
  | .rollbackFailed .. => "Participant rollback failed"
  | .disposeCancelled .. => "Dispose cancelled, scope left open for another dispose"
  | .disposed => "Scope disposed"
  | .dropDisposeFailed _ => "Dispose on drop failed"
  | .droppedUndisposed _ =>
    "Async scope dropped without dispose; uncommitted work is left to the drivers"

def fields : Notice → List (String × String)
  | .joinedAmbient ambient => [("ambient", ambient), ("mode", "ambient")]
  | .wentOwn => [("mode", "local")]
  | .enlisted index name isolation => who index name ++ [("isolation", isolation.sql)]
  | .beginFailed name error => [("name", name), ("error", error.message)]
  | .committed index name => who index name
  | .commitFailed index name error => who index name ++ [("error", error.message)]
  | .commitCancelled index name outcomeUnknown =>
    who index name ++ [("outcome_unknown", toString outcomeUnknown)]
  | .completed participants => [("participants", toString participants)]
  | .rolledBack index name => who index name
  | .rollbackFailed index name error => who index name ++ [("error", error.message)]
  | .disposeCancelled index name pending failed outcomeUnknown =>
    who index name ++ [("pending", toString pending), ("failed", toString failed),
      ("outcome_unknown", toString outcomeUnknown)]
  | .disposed => []
  | .dropDisposeFailed error => [("error", error.message)]
  | .droppedUndisposed pending => [("pending", toString pending)]

/-- The log entry of a notice about the scope with an identity. -/
def entry (scope : String) (notice : Notice) : Log.Entry :=
  ⟨notice.level, notice.message, ("scope", scope) :: notice.fields⟩

end Notice

end UnitOfWork.Scope
