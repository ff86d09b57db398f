import UnitOfWork.Scope.Desk
import UnitOfWork.Sqlite.Participant

/-!
# SQLite connections at a desk

A desk of SQLite connections runs the statements of the small database and drives one blocking scope at
a time. Nothing can be cancelled here.
-/

set_option autoImplicit false

namespace UnitOfWork.Sqlite

/-- A command to SQLite connections. -/
abbrev Command := Desk.Command Statement Empty

namespace Session

/-- A desk with unlocked, empty databases under the given names. -/
def start (names : List String) : Desk (World Database) :=
  { world := { connections := names.map fun name => { name, database := {} } } }

/-- What SQLite brings to a desk. -/
def engine : Desk.Engine (World Database) Statement Empty where
  host := host
  adapter? := World.adapter?
  execute c statement := modifyGet (·.execute c statement)
  connection? w h := (w.handles[h]?).map Handle.connection
  shownConnection := shownConnection
  shownHandle := World.shownHandle
  activity w := w.handles.map Handle.active
  complete _ := Scope.Blocking.complete host
  dispose _ := Scope.Blocking.dispose host
  drop := Scope.Blocking.drop host

/-- Carry out a command. -/
def step : Command → DeskM (World Database) (Option Desk.Answer) := Desk.step engine

end Session

end UnitOfWork.Sqlite
