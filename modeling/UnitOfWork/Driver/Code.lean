/-!
# Native codes

The code a database driver attaches to a failure is a number or a SQLSTATE, never both. The two
kinds are never equal, whatever their texts.
-/

set_option autoImplicit false

namespace UnitOfWork.Driver

/-- A driver's own code for a failure. -/
inductive Code where
  | number (n : Int)
  | state (sqlState : String)
deriving DecidableEq, Repr

namespace Code

def text : Code → String
  | .number n => toString n
  | .state sqlState => sqlState

def number? : Code → Option Int
  | .number n => some n
  | .state _ => none

def state? : Code → Option String
  | .number _ => none
  | .state sqlState => some sqlState

end Code

end UnitOfWork.Driver
