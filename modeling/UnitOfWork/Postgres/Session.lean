import UnitOfWork.Postgres.Participant
import UnitOfWork.Scope.Desk

/-!
# PostgreSQL connections at a desk

A desk of PostgreSQL connections sends statements to scripted servers and drives one suspending scope at
a time. Completions and disposals may run under a token that has fired already, or that a reply may
fire.
-/

set_option autoImplicit false

namespace UnitOfWork.Postgres

/-- How a completion or a disposal may be cancelled. -/
inductive Cancellation where
  /-- The token has fired already. -/
  | before
  /-- Only replies of a server fire the token. -/
  | byReplies
deriving DecidableEq, Repr

/-- A command to PostgreSQL connections. -/
inductive Command where
  /-- Queue replies of a connection's server. -/
  | script (connection : Nat) (replies : List Reply)
  | desk (command : Desk.Command String Cancellation)
deriving DecidableEq, Repr

namespace Session

/-- A desk with connections under the given names, each to a server that accepts everything. -/
def start (names : List String) : Desk World :=
  { world := { connections := names.map fun name => { name } } }

/-- A step of the scope, under a token if the command has one. -/
def racing {α : Type} (cancellation : Option Cancellation)
    (step : Scope.RacingHost WorldM Nat → WorldM α) : WorldM α :=
  match cancellation with
  | none => step host.uncancelled
  | some cancellation => do
    modify fun w => { w with tokenFired := cancellation == .before }
    step racingHost

/-- What PostgreSQL brings to a desk. -/
def engine : Desk.Engine World String Cancellation where
  host := host
  adapter? := World.adapter?
  execute c statement := modifyGet (·.execute c statement)
  connection? w h := (w.handles[h]?).map Handle.connection
  shownConnection := shownConnection
  shownHandle := World.shownHandle
  activity w := w.handles.map Handle.active
  complete cancellation s := racing cancellation fun host => Scope.Suspending.complete host s
  dispose cancellation s := racing cancellation fun host => Scope.Suspending.dispose host s
  drop := Scope.Suspending.drop host

/-- Queue replies of a connection's server. -/
def queue (w : World) (c : Nat) (replies : List Reply) : World :=
  { w with connections := w.connections.modify c fun conn =>
      { conn with server := { conn.server with replies := conn.server.replies ++ replies } } }

/-- Carry out a command. -/
def step : Command → DeskM World (Option Desk.Answer)
  | .script c replies => do
    Desk.onWorld (modify (queue · c replies))
    pure (some .done)
  | .desk command => Desk.step engine command

end Session

end UnitOfWork.Postgres
