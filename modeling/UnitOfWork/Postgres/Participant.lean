import UnitOfWork.Postgres.Server
import UnitOfWork.Scope.Suspending
import UnitOfWork.Text.Shown

/-!
# PostgreSQL participants

A handle keeps a flag for its transaction. A commit clears it once the server has answered without an
error, so a failed or interrupted COMMIT leaves the handle active and the ROLLBACK that follows is
sent. A rollback clears it before the statement is sent, so a ROLLBACK that was interrupted is not sent
a second time: the handle then has no active transaction.

A call that races a token is interrupted when the token fires while its statement is in flight.
-/

set_option autoImplicit false

namespace UnitOfWork.Postgres

structure Connection where
  name : String
  server : Server := {}
deriving DecidableEq, Repr

/-- A handle to a transaction of a connection. -/
structure Handle where
  connection : Nat
  active : Bool := true
deriving DecidableEq, Repr

/-- The connections, the handles handed out so far, and the token of the step under way. -/
structure World where
  connections : List Connection
  handles : List Handle := []
  tokenFired : Bool := false
deriving DecidableEq, Repr

abbrev WorldM := StateT World LogM

namespace World

def name (w : World) (c : Nat) : String := ((w.connections[c]?).map Connection.name).getD ""

/-- Send a statement on a connection; its outcome, and whether the token fired meanwhile. -/
def send (w : World) (c : Nat) (statement : String) :
    (Except Driver.Fault Unit × Bool) × World :=
  match w.connections[c]? with
  | none => ((.error connectionLost, false), w)
  | some conn =>
    let sent := conn.server.send statement
    ((sent.outcome, sent.fired),
      { w with
        connections := w.connections.set c { conn with server := sent.server }
        tokenFired := w.tokenFired || sent.fired })

/-- Send a statement on a connection. -/
def execute (w : World) (c : Nat) (statement : String) : Except Driver.Fault Unit × World :=
  let ((outcome, _), w) := w.send c statement
  (outcome, w)

def setActive (w : World) (h : Nat) (active : Bool) : World :=
  { w with handles := w.handles.modify h fun handle => { handle with active } }

/-- Begin a transaction on a connection and hand out its handle. -/
def begin (w : World) (c : Nat) (isolation : IsolationLevel) :
    Except ParticipantError Nat × World :=
  match w.execute c (beginStatement isolation) with
  | (.error fault, w) => (.error (.driver fault), w)
  | (.ok (), w) =>
    (.ok w.handles.length, { w with handles := w.handles ++ [{ connection := c }] })

/-- How a call under the token ended, from the outcome of its statement. -/
def raced (outcome : Except Driver.Fault Unit) (fired : Bool) :
    Scope.Race (Except ParticipantError Unit) :=
  if fired then .interrupted else .finished (outcome.mapError .driver)

/-- The handle, if it has an active transaction. -/
def activeHandle? (w : World) (h : Nat) : Option Handle := (w.handles[h]?).filter Handle.active

/-- Send COMMIT and clear the flag on success. -/
def commit (w : World) (h : Nat) : Except ParticipantError Unit × World :=
  match w.activeHandle? h with
  | none => (.error (.noActiveTransaction .commit), w)
  | some handle =>
    match w.execute handle.connection "COMMIT" with
    | (.error fault, w) => (.error (.driver fault), w)
    | (.ok (), w) => (.ok (), w.setActive h false)

/-- Clear the flag and send ROLLBACK. -/
def rollback (w : World) (h : Nat) : Except ParticipantError Unit × World :=
  match w.activeHandle? h with
  | none => (.error (.noActiveTransaction .rollback), w)
  | some handle =>
    let (outcome, w) := (w.setActive h false).execute handle.connection "ROLLBACK"
    (outcome.mapError .driver, w)

/-- A commit under the token: interrupted in flight, it leaves the flag set. -/
def commitRacing (w : World) (h : Nat) : Scope.Race (Except ParticipantError Unit) × World :=
  match w.activeHandle? h with
  | none => (.finished (.error (.noActiveTransaction .commit)), w)
  | some handle =>
    match w.send handle.connection "COMMIT" with
    | ((.ok (), false), w) => (.finished (.ok ()), w.setActive h false)
    | ((outcome, fired), w) => (raced outcome fired, w)

/-- A rollback under the token: the flag is cleared before the statement is sent. -/
def rollbackRacing (w : World) (h : Nat) : Scope.Race (Except ParticipantError Unit) × World :=
  match w.activeHandle? h with
  | none => (.finished (.error (.noActiveTransaction .rollback)), w)
  | some handle =>
    let ((outcome, fired), w) := (w.setActive h false).send handle.connection "ROLLBACK"
    (raced outcome fired, w)

def isActive (w : World) (h : Nat) : Bool := (w.handles[h]?).any Handle.active

/-- The name of a handle's connection. -/
def handleName (w : World) (h : Nat) : String :=
  ((w.handles[h]?).map fun handle => w.name handle.connection).getD ""

end World

def startedEntry (name : String) (isolation : IsolationLevel) : Log.Entry :=
  ⟨.debug, "PostgreSQL transaction started",
    [("name", name), ("statement", beginStatement isolation)]⟩

def releasedOpenEntry (name : String) : Log.Entry :=
  ⟨.warn, "PostgreSQL transaction released while still open", [("name", name)]⟩

/-- The adapter of a connection with a given name. -/
def adapter (name : String) (c : Nat) : Adapter WorldM Nat where
  name := name
  beginOwn isolation := do
    match ← modifyGet (·.begin c isolation) with
    | .error e => pure (.error e)
    | .ok handle =>
      Log.record (startedEntry name isolation)
      pure (.ok handle)
  joinAmbient _ := pure (.error .ambientUnsupported)

/-- The adapter of a connection of a world. -/
def World.adapter? (w : World) (c : Nat) : Option (Adapter WorldM Nat) :=
  (w.connections[c]?).map fun conn => adapter conn.name c

/-- Release a handle: nothing is sent, an active one is warned about. -/
def release (h : Nat) : WorldM Unit := do
  let w ← get
  if w.isActive h then Log.record (releasedOpenEntry (w.handleName h)) else pure ()

/-- The host of a scope over PostgreSQL connections, without a token. -/
def host : Scope.Host WorldM Nat where
  commit h := modifyGet (·.commit h)
  rollback h := modifyGet (·.rollback h)
  release := release
  log entry := Log.record entry

/-- The host of a scope over PostgreSQL connections, under the token of the step. -/
def racingHost : Scope.RacingHost WorldM Nat where
  toHost := host
  isCancelled := return (← get).tokenFired
  commitRacing h := modifyGet (·.commitRacing h)
  rollbackRacing h := modifyGet (·.rollbackRacing h)

/-- How a connection is shown. -/
def shownConnection (name : String) : String :=
  "PostgresConnection \x7b name: " ++ Text.shown name ++ ", .. \x7d"

/-- How a handle is shown. -/
def World.shownHandle (w : World) (h : Nat) : String :=
  "PostgresTransaction \x7b name: " ++ Text.shown (w.handleName h) ++ ", active: " ++
    toString (w.isActive h) ++ " \x7d"

end UnitOfWork.Postgres
