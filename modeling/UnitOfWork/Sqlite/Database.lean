import UnitOfWork.Sqlite.Transactional

/-!
# A small SQLite database

One table with a deferred foreign key is enough to show what a participant has to expect of SQLite.
Its content is a count of good rows and a count of orphans, rows that break the key. Outside a
transaction every statement stands for itself; inside one, orphans are let in and only make the COMMIT
fail, which leaves the transaction open. ROLLBACK restores the content at BEGIN. A statement may also ask
for that ROLLBACK in case it fails, and then its failure ends the transaction.

A database may be locked by a connection elsewhere. Then it can be neither read nor written here, and a
transaction that takes the lock at once cannot begin.
-/

set_option autoImplicit false

namespace UnitOfWork.Sqlite

/-- The rows of the table. -/
structure Content where
  good : Nat := 0
  orphans : Nat := 0
deriving DecidableEq, Repr

def Content.rows (c : Content) : Nat := c.good + c.orphans

/-- A database as one connection sees it. -/
structure Database where
  content : Content := {}
  /-- The content at BEGIN, while a transaction is open. -/
  saved : Option Content := none
  lockedElsewhere : Bool := false
deriving DecidableEq, Repr

inductive Statement where
  /-- Begin a transaction, and take the write lock at once if it is immediate. -/
  | begin (immediate : Bool)
  | commit
  | rollback
  | insert
  | insertOrphan
  /-- INSERT a row that breaks a constraint. -/
  | insertNull
  /-- INSERT OR ROLLBACK such a row. -/
  | insertNullOrRollback
  | deleteOrphans
  | malformed
deriving DecidableEq, Repr

/-- A failure with an extended result code. -/
def failure (extended : Int) (message : String) : Driver.Fault := .sqlite (some extended) message

def busy : Driver.Fault := failure 5 "database is locked"

def nestedBegin : Driver.Fault := failure 1 "cannot start a transaction within a transaction"

def nothingToCommit : Driver.Fault := failure 1 "cannot commit - no transaction is active"

def nothingToRollBack : Driver.Fault := failure 1 "cannot rollback - no transaction is active"

def foreignKeyFailed : Driver.Fault := failure 787 "FOREIGN KEY constraint failed"

def notNullFailed : Driver.Fault := failure 1299 "NOT NULL constraint failed"

def malformedStatement : Driver.Fault := .sqlite none "syntax error"

namespace Database

def inTransaction (db : Database) : Bool := db.saved.isSome

/-- Run a statement that reads or writes the table, unless the database is locked elsewhere. -/
def touch (db : Database) (run : Except Driver.Fault Unit × Database) :
    Except Driver.Fault Unit × Database :=
  if db.lockedElsewhere then (.error busy, db) else run

/-- Undo what the open transaction has done and end it, if there is one. -/
def abandoned (db : Database) : Database :=
  { db with content := db.saved.getD db.content, saved := none }

/-- Run a statement. A failed one changes nothing, unless it asks for a ROLLBACK in that case. -/
def execute (db : Database) : Statement → Except Driver.Fault Unit × Database
  | .begin immediate =>
    if db.inTransaction then (.error nestedBegin, db)
    else if immediate && db.lockedElsewhere then (.error busy, db)
    else (.ok (), { db with saved := some db.content })
  | .commit =>
    if !db.inTransaction then (.error nothingToCommit, db)
    else if 0 < db.content.orphans then (.error foreignKeyFailed, db)
    else (.ok (), { db with saved := none })
  | .rollback =>
    match db.saved with
    | none => (.error nothingToRollBack, db)
    | some content => (.ok (), { db with content, saved := none })
  | .insert =>
    db.touch (.ok (), { db with content := { db.content with good := db.content.good + 1 } })
  | .insertOrphan =>
    db.touch <|
      if db.inTransaction then
        (.ok (), { db with content := { db.content with orphans := db.content.orphans + 1 } })
      else (.error foreignKeyFailed, db)
  | .insertNull => db.touch (.error notNullFailed, db)
  | .insertNullOrRollback => db.touch (.error notNullFailed, db.abandoned)
  | .deleteOrphans => db.touch (.ok (), { db with content := { db.content with orphans := 0 } })
  | .malformed => (.error malformedStatement, db)

end Database

instance : Transactional Database Statement where
  begin := .begin
  commit := .commit
  rollback := .rollback
  execute := Database.execute
  inTransaction := Database.inTransaction

end UnitOfWork.Sqlite
