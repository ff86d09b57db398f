import UnitOfWork.Driver.Code
import UnitOfWork.Provider.Classifier

/-!
# Retry policies

A policy says which failures are worth another attempt and, if it can, which native code to report
for them.
-/

set_option autoImplicit false

namespace UnitOfWork.Retry

/-- How the failures of one operation are judged. -/
structure Policy (ε : Type) where
  isTransient : ε → Bool
  code : ε → Option Driver.Code := fun _ => none

namespace Policy

variable {ε : Type}

/-- Every failure is worth another attempt. -/
def always : Policy ε where
  isTransient _ := true

/-- No failure is worth another attempt, so the operation runs once. -/
def never : Policy ε where
  isTransient _ := false

/-- The failures that satisfy a predicate. -/
def predicate (p : ε → Bool) : Policy ε where
  isTransient := p

/-- The failures on an allow list, reported with their codes. -/
def ofClassifier [Faulty ε] (c : Classifier) : Policy ε where
  isTransient := c.isTransient
  code := Faulty.code

end Policy

end UnitOfWork.Retry
