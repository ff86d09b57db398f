import UnitOfWork.Driver.Fault
import UnitOfWork.Isolation

/-!
# What a connection needs of its database

A participant sends three statements of its own, BEGIN, COMMIT and ROLLBACK, and asks whether a
transaction is open. Everything else about a database is up to the engine that runs it.
-/

set_option autoImplicit false

namespace UnitOfWork.Sqlite

/-- An engine: databases of type `D`, as one connection sees them, and statements of type `S`. -/
class Transactional (D : Type) (S : outParam Type) where
  /-- Begin a transaction, and take the write lock at once if it is immediate. -/
  begin (immediate : Bool) : S
  commit : S
  rollback : S
  /-- Run one statement; the outcome, and the database afterwards. -/
  execute : D → S → Except Driver.Fault Unit × D
  inTransaction : D → Bool

/-- Whether a level takes the write lock at BEGIN. Every transaction is serializable; taking the lock
up front keeps later statements from failing on the upgrade. -/
def isImmediate (isolation : IsolationLevel) : Bool := isolation.isRepeatable

/-- The BEGIN statement for a level. -/
def beginStatement (isolation : IsolationLevel) : String :=
  if isImmediate isolation then "BEGIN IMMEDIATE" else "BEGIN DEFERRED"

end UnitOfWork.Sqlite
