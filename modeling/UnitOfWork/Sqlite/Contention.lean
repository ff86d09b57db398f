import UnitOfWork.LayeredFailure
import UnitOfWork.Retry.Provider
import UnitOfWork.Retry.Rehearsal
import UnitOfWork.Scope.Attempt
import UnitOfWork.Sqlite.Participant

/-!
# Retrying against a locked database

A holder keeps the database locked while a writer retries one operation: a single insert, or a unit of
work of the writer alone. The holder lets go while the observer is told of a chosen retry, or never.
-/

set_option autoImplicit false

namespace UnitOfWork.Sqlite

/-- A writer kept out by a holder. -/
structure Contention where
  retry : Retry.ProviderRetry
  /-- The retry during which the holder lets go. -/
  releaseOn : Option Nat
  /-- The level of the writer's unit of work; none for a single insert. -/
  isolation : Option IsolationLevel

namespace Contention

/-- The writer's connection to a database that is locked elsewhere. -/
def world : World Database :=
  { connections := [{ name := "writer", database := { lockedElsewhere := true } }] }

/-- The holder lets go of the database. -/
def unlock (w : World Database) : World Database :=
  { w with connections := w.connections.map fun conn =>
      { conn with database := { conn.database with lockedElsewhere := false } } }

/-- One call of the writer's operation. -/
def operation (c : Contention) : WorldM Database (Except LayeredFailure Unit) :=
  match c.isolation with
  | none => do
    let outcome ← modifyGet (·.execute 0 .insert)
    pure (outcome.mapError .driver)
  | some isolation => do
    let outcome ← Scope.Blocking.attempt host [adapter "writer" 0]
      { id := "<scope:0>", options := { isolation } }
    pure (outcome.mapError .transaction)

/-- The holder's move when the observer is told of a numbered retry. -/
def observe (c : Contention) (number : Nat) : WorldM Database Unit :=
  if c.releaseOn = some number then modify unlock else pure ()

/-- The run of the writer; its result, the bench and the database afterwards. -/
def run (c : Contention) :
    LogM ((Except LayeredFailure Unit × Retry.Bench LayeredFailure) × World Database) :=
  let host := Retry.Bench.blockingHost (fun _ => c.operation) c.observe (Log.record ·)
    LayeredFailure.message
  ((c.retry.runBlocking host).run (.ready .recording .never)).run world

end Contention

end UnitOfWork.Sqlite
