import UnitOfWork.Scope.Blocking
import UnitOfWork.Sqlite.Database
import UnitOfWork.Text.Shown

/-!
# SQLite participants

A connection may hand out several handles over time, and all of them act on the one transaction that
the connection has open. A handle keeps a flag of its own: it is set when the handle is handed out, and
set again to what the connection says only after a COMMIT or ROLLBACK through that very handle. So the
flag of a handle whose transaction was ended by other means is stale.

SQLite has no distributed transactions, so no connection joins an ambient one.

The databases are those of any engine, so nothing here depends on what a statement does.
-/

set_option autoImplicit false

namespace UnitOfWork.Sqlite

structure Connection (D : Type) where
  name : String
  database : D
deriving DecidableEq, Repr

/-- A handle to a transaction of a connection. -/
structure Handle where
  connection : Nat
  active : Bool := true
deriving DecidableEq, Repr

/-- The connections and the handles handed out so far. -/
structure World (D : Type) where
  connections : List (Connection D)
  handles : List Handle := []
deriving DecidableEq, Repr

abbrev WorldM (D : Type) := StateT (World D) LogM

variable {D S : Type} [Transactional D S]

namespace World

def name (w : World D) (c : Nat) : String := ((w.connections[c]?).map Connection.name).getD ""

/-- Run a statement on a connection. -/
def execute (w : World D) (c : Nat) (statement : S) : Except Driver.Fault Unit × World D :=
  match w.connections[c]? with
  | none => (.error malformedStatement, w)
  | some conn =>
    let (outcome, database) := Transactional.execute conn.database statement
    (outcome, { w with connections := w.connections.set c { conn with database } })

def inTransaction (w : World D) (c : Nat) : Bool :=
  (w.connections[c]?).any fun conn => Transactional.inTransaction conn.database

/-- Begin a transaction on a connection and hand out its handle. -/
def begin (w : World D) (c : Nat) (isolation : IsolationLevel) :
    Except ParticipantError Nat × World D :=
  match w.execute c (Transactional.begin D (isImmediate isolation)) with
  | (.error fault, w) => (.error (.driver fault), w)
  | (.ok (), w) =>
    (.ok w.handles.length, { w with handles := w.handles ++ [{ connection := c }] })

/-- End the transaction of a handle that still takes itself for active, and set its flag to what
the connection says. -/
def finish (w : World D) (h : Nat) (statement : S) (phase : Phase) :
    Except ParticipantError Unit × World D :=
  match (w.handles[h]?).filter Handle.active with
  | none => (.error (.noActiveTransaction phase), w)
  | some handle =>
    let (outcome, w) := w.execute handle.connection statement
    let active := w.inTransaction handle.connection
    (outcome.mapError .driver, { w with handles := w.handles.set h { handle with active } })

def commit (w : World D) (h : Nat) : Except ParticipantError Unit × World D :=
  w.finish h (Transactional.commit D) .commit

def rollback (w : World D) (h : Nat) : Except ParticipantError Unit × World D :=
  w.finish h (Transactional.rollback D) .rollback

def isActive (w : World D) (h : Nat) : Bool := (w.handles[h]?).any Handle.active

/-- The name of a handle's connection. -/
def handleName (w : World D) (h : Nat) : String :=
  ((w.handles[h]?).map fun handle => w.name handle.connection).getD ""

end World

def startedEntry (name : String) (isolation : IsolationLevel) : Log.Entry :=
  ⟨.debug, "SQLite transaction started", [("name", name), ("statement", beginStatement isolation)]⟩

def releaseFailedEntry (name : String) (error : ParticipantError) : Log.Entry :=
  ⟨.warn, "Rollback on dispose failed", [("name", name), ("error", error.message)]⟩

/-- The adapter of a connection with a given name. -/
def adapter (name : String) (c : Nat) : Adapter (WorldM D) Nat where
  name := name
  beginOwn isolation := do
    match ← modifyGet (·.begin c isolation) with
    | .error e => pure (.error e)
    | .ok handle =>
      Log.record (startedEntry name isolation)
      pure (.ok handle)
  joinAmbient _ := pure (.error .ambientUnsupported)

/-- The adapter of a connection of a world. -/
def World.adapter? (w : World D) (c : Nat) : Option (Adapter (WorldM D) Nat) :=
  (w.connections[c]?).map fun conn => adapter conn.name c

/-- Release a handle: roll back if it takes itself for active. -/
def release (h : Nat) : WorldM D Unit := do
  if (← get).isActive h then
    match ← modifyGet (·.rollback h) with
    | .ok () => pure ()
    | .error e => Log.record (releaseFailedEntry ((← get).handleName h) e)
  else pure ()

/-- The host of a scope over SQLite connections. -/
def host : Scope.Host (WorldM D) Nat where
  commit h := modifyGet (·.commit h)
  rollback h := modifyGet (·.rollback h)
  release := release
  log entry := Log.record entry

/-- How a connection is shown. -/
def shownConnection (name : String) : String :=
  "SqliteConnection \x7b name: " ++ Text.shown name ++ ", .. \x7d"

/-- How a handle is shown. -/
def World.shownHandle (w : World D) (h : Nat) : String :=
  "SqliteTransaction \x7b name: " ++ Text.shown (w.handleName h) ++ ", active: " ++
    toString (w.isActive h) ++ " \x7d"

end UnitOfWork.Sqlite
