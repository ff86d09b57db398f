import UnitOfWork.Driver.Code
import UnitOfWork.Provider.Kind

/-!
# Driver faults

A driver fault is what a database driver reports. Two things decide whether it is worth another
attempt: its native code and the engine that raised it. `Faulty` names the failures that carry them,
possibly through wrappers; an unknown origin takes the code at face value. A failure behind a pointer
counts as the failure itself.
-/

set_option autoImplicit false

namespace UnitOfWork

/-- Failures that may carry a native code and the engine it belongs to. -/
class Faulty (ε : Type) where
  code : ε → Option Driver.Code
  origin : ε → Option Provider

/-- A failure behind a pointer, owned or borrowed. -/
structure Boxed (ε : Type) where
  content : ε

instance {ε : Type} [Faulty ε] : Faulty (Boxed ε) where
  code e := Faulty.code e.content
  origin e := Faulty.origin e.content

namespace Driver

/-- A coded failure of any engine, reached through no driver of its own. -/
structure Error where
  provider : Provider
  code : Code
  message : String
deriving DecidableEq, Repr

def Error.text (e : Error) : String := s!"{e.provider.name} error {e.code.text}: {e.message}"

instance : Faulty Error where
  code e := some e.code
  origin e := some e.provider

/-- A failure as a driver reports it. -/
inductive Fault where
  | coded (error : Error)
  /-- A SQLite failure; its extended result code, when the engine gave one. -/
  | sqlite (extended : Option Int) (message : String)
  /-- A PostgreSQL failure; its SQLSTATE, when the server gave one. -/
  | postgres (state : Option String) (message : String)
  /-- A failure from elsewhere, of unknown origin and without a code. -/
  | foreign (message : String)
deriving DecidableEq, Repr

namespace Fault

def text : Fault → String
  | .coded error => error.text
  | .sqlite _ message => message
  | .postgres _ message => message
  | .foreign message => message

/-- The primary result code is the low byte of the extended one. -/
def primary (extended : Int) : Int := extended % 256

instance : Faulty Fault where
  code
    | .coded error => Faulty.code error
    | .sqlite extended _ => extended.map fun n => .number (primary n)
    | .postgres state _ => state.map .state
    | .foreign _ => none
  origin
    | .coded error => Faulty.origin error
    | .sqlite .. => some .sqlite
    | .postgres .. => some .postgreSql
    | .foreign _ => none

end Fault

end Driver

end UnitOfWork
