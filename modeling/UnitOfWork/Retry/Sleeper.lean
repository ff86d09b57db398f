import UnitOfWork.Duration

/-!
# Sleepers

A sleeper is asked for every delay of a run. A recording sleeper keeps the delays in the order of the
requests and returns at once, or waits as well; the system sleeper only waits.
-/

set_option autoImplicit false

namespace UnitOfWork.Retry

/-- What a sleeper does with a delay. -/
inductive Sleeper where
  | recording
  | recordingAndWaiting
  | system
deriving DecidableEq, Repr

namespace Sleeper

def records : Sleeper → Bool
  | .system => false
  | _ => true

def waits : Sleeper → Bool
  | .recording => false
  | _ => true

end Sleeper

/-- The delays requested so far, in the order of the requests. -/
structure Recorded where
  delays : List Duration := []
deriving DecidableEq, Repr

namespace Recorded

def record (r : Recorded) (delay : Duration) : Recorded := ⟨r.delays ++ [delay]⟩

def count (r : Recorded) : Nat := r.delays.length

/-- The delays together, unless they pass the widest span. -/
def total? (r : Recorded) : Option Duration := Duration.sum? r.delays

end Recorded

end UnitOfWork.Retry
