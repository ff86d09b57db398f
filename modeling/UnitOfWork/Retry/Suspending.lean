import UnitOfWork.Classification
import UnitOfWork.Retry.Blocking

/-!
# The suspending run

The suspending run looks at a cancellation token twice in every round: before it calls the operation,
and while a delay is waited out. It never interrupts a call in flight, so a token that fires inside
the last call changes nothing. A delay is requested before the token is looked at, and a token that has
fired wins over a delay that has passed.
-/

set_option autoImplicit false

namespace UnitOfWork.Retry

/-- Why a cancellable run produced no value. -/
inductive Failure (ε : Type) where
  /-- The token fired; the number of calls that had been made. -/
  | cancelled (attempts : Nat)
  /-- The operation's last failure, unchanged. -/
  | operation (error : ε)
deriving DecidableEq

namespace Failure

variable {ε : Type}

def message (text : ε → String) : Failure ε → String
  | .cancelled attempts => s!"retry cancelled after {attempts} attempt(s)"
  | .operation error => text error

/-- The operation's failure, if that is what ended the run. -/
def operationError : Failure ε → Option ε
  | .cancelled _ => none
  | .operation error => some error

instance [Classified ε] : Classified (Failure ε) where
  classify
    | .cancelled _ => ⟨false, .warning, false, none⟩
    | .operation error => classify error

end Failure

/-- How a wait under a token ended. -/
inductive Pause where
  | elapsed
  | interrupted
deriving DecidableEq, Repr

/-- The host of a suspending run: it can look at the token, and wait for a delay or the token,
whichever is first. -/
structure SuspendingHost (m : Type → Type) (ε α : Type) extends Calls m ε α where
  isCancelled : m Bool
  pause : Duration → m Pause

variable {m : Type → Type} [Monad m] {ε α : Type}

namespace Suspending

/-- End a run because the token fired. -/
def cancel (host : SuspendingHost m ε α) (attempts : Nat) (slept : Duration) :
    m (Except (Failure ε) α) := do
  host.report (.cancelled attempts slept)
  pure (.error (.cancelled attempts))

/-- The run from an attempt on, with the attempts that may follow it and the delays so far. -/
def runFrom (options : Options) (policy : Policy ε) (host : SuspendingHost m ε α) :
    (left attempt : Nat) → (slept : Duration) → m (Except (Failure ε) α)
  | left, attempt, slept => do
    if ← host.isCancelled then
      cancel host (attempt - 1) slept
    else
      match ← host.operate attempt with
      | .ok value =>
        host.succeed attempt slept
        pure (.ok value)
      | .error e =>
        if policy.isTransient e then
          match left with
          | 0 =>
            host.report (.exhausted options.maxAttempts slept e (policy.code e))
            pure (.error (.operation e))
          | left + 1 =>
            let wait := options.delayFor attempt
            host.announce options ⟨attempt, wait, e, policy.code e⟩
            match ← host.pause wait with
            | .interrupted => cancel host attempt (slept + wait)
            | .elapsed => runFrom options policy host left (attempt + 1) (slept + wait)
        else
          host.report (.permanent attempt e (policy.code e))
          pure (.error (.operation e))

/-- Call the operation until it succeeds, fails for good, runs out of attempts, or the token
fires. -/
def run (options : Options) (policy : Policy ε) (host : SuspendingHost m ε α) :
    m (Except (Failure ε) α) :=
  runFrom options policy host (options.maxAttempts - 1) 1 .zero

end Suspending

end UnitOfWork.Retry
