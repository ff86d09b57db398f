import UnitOfWork.Duration

/-!
# How a failure is judged

Every failure of the library answers four questions: may the same call succeed when repeated
unchanged, how loud is it, is data at risk across participants, and does it suggest a wait. A
failure that stands for another one passes its answers on.
-/

set_option autoImplicit false

namespace UnitOfWork

/-- How loud a failure is, from the quietest up. -/
inductive Severity where
  | info
  | warning
  | error
  | critical
deriving DecidableEq, Repr

namespace Severity

/-- The place of a severity in the order of loudness. -/
def rank : Severity → Nat
  | .info => 0
  | .warning => 1
  | .error => 2
  | .critical => 3

def text : Severity → String
  | .info => "INFO"
  | .warning => "WARN"
  | .error => "ERROR"
  | .critical => "CRITICAL"

/-- The louder of two severities. -/
def louder (a b : Severity) : Severity := if a.rank ≤ b.rank then b else a

end Severity

/-- The answers about one failure. -/
structure Classification where
  retryable : Bool
  severity : Severity
  critical : Bool
  retryAfter : Option Duration := none
deriving DecidableEq

/-- Failures that can be judged. -/
class Classified (ε : Type) where
  classify : ε → Classification

export Classified (classify)

/-- A failure that will not go away, of plain severity. -/
def Classification.plain : Classification := ⟨false, .error, false, none⟩

end UnitOfWork
