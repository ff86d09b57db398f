import UnitOfWork.Driver.Fault
import UnitOfWork.Isolation

/-!
# A scripted PostgreSQL server

A server answers each statement from a queue of replies and accepts it when the queue is empty. It
keeps the statements it received. A connection that is lost fails the statement that lost it and every
later one; the later ones do not arrive. Nor does a statement with a zero character, which cannot be
sent; it fails by itself and takes no reply. One kind of reply lets the caller's token fire before the
statement is answered.
-/

set_option autoImplicit false

namespace UnitOfWork.Postgres

/-- The answer to one statement. -/
inductive Reply where
  | accept
  /-- The statement fails with a SQLSTATE. -/
  | fail (state : String)
  /-- The caller's token fires while the statement runs; then it is accepted. -/
  | fireToken
  /-- The connection is lost. -/
  | close
deriving DecidableEq, Repr

/-- The server's end of one connection. -/
structure Server where
  replies : List Reply := []
  closed : Bool := false
  received : List String := []
deriving DecidableEq, Repr

/-- What became of a statement. -/
structure Sent where
  outcome : Except Driver.Fault Unit
  /-- The token fired while the statement was in flight. -/
  fired : Bool
  server : Server

def connectionLost : Driver.Fault := .postgres none "connection closed"

def unsendable : Driver.Fault := .postgres none "error encoding message to server"

namespace Server

/-- Send a statement and take the next reply. -/
def send (server : Server) (statement : String) : Sent :=
  if statement.toList.contains '\x00' then ⟨.error unsendable, false, server⟩
  else if server.closed then ⟨.error connectionLost, false, server⟩
  else
    let after := { server with
      replies := server.replies.tail, received := server.received ++ [statement] }
    match server.replies.head?.getD .accept with
    | .accept => ⟨.ok (), false, after⟩
    | .fail state => ⟨.error (.postgres (some state) "db error"), false, after⟩
    | .fireToken => ⟨.ok (), true, after⟩
    | .close => ⟨.error connectionLost, false, { after with closed := true }⟩

end Server

/-- The level under which the server knows a level: its repeatable read is snapshot isolation. -/
def serverLevel : IsolationLevel → IsolationLevel
  | .snapshot => .repeatableRead
  | level => level

/-- The BEGIN statement for a level. -/
def beginStatement (isolation : IsolationLevel) : String :=
  s!"BEGIN ISOLATION LEVEL {(serverLevel isolation).sql}"

end UnitOfWork.Postgres
