import UnitOfWork.Retry.Options
import UnitOfWork.Retry.Policy
import UnitOfWork.Retry.Telemetry

/-!
# The blocking run

The first attempt runs at once. A failure that the policy calls permanent, and the failure of the last
allowed attempt, end the run and are returned unchanged. Any other failure is reported to the log and
to the observer, waited out, and the operation is called again.

The run is written over any monad: the host says what it is to call the operation, to tell the
observer, to wait and to log. A law about the order of those calls is a law of the program text and
holds for every host.
-/

set_option autoImplicit false

namespace UnitOfWork.Retry

/-- What every run asks of its host. Attempts are numbered from one. -/
structure Calls (m : Type → Type) (ε α : Type) where
  operate : Nat → m (Except ε α)
  observe : Attempt ε → m Unit
  report : Report ε → m Unit

/-- The host of a blocking run. -/
structure BlockingHost (m : Type → Type) (ε α : Type) extends Calls m ε α where
  sleep : Duration → m Unit

variable {m : Type → Type} [Monad m] {ε α : Type}

/-- A success is logged when it took more than one attempt. -/
def Calls.succeed (calls : Calls m ε α) (attempt : Nat) (slept : Duration) : m Unit :=
  if 1 < attempt then calls.report (.recovered attempt slept) else pure ()

/-- Tell the log, then the observer, of an attempt that will be repeated. -/
def Calls.announce (calls : Calls m ε α) (options : Options) (attempt : Attempt ε) : m Unit := do
  calls.report (.retrying options.maxAttempts attempt)
  calls.observe attempt

namespace Blocking

/-- The run from an attempt on, with the attempts that may follow it and the delays so far. -/
def runFrom (options : Options) (policy : Policy ε) (host : BlockingHost m ε α) :
    (left attempt : Nat) → (slept : Duration) → m (Except ε α)
  | left, attempt, slept => do
    match ← host.operate attempt with
    | .ok value =>
      host.succeed attempt slept
      pure (.ok value)
    | .error e =>
      if policy.isTransient e then
        match left with
        | 0 =>
          host.report (.exhausted options.maxAttempts slept e (policy.code e))
          pure (.error e)
        | left + 1 =>
          let wait := options.delayFor attempt
          host.announce options ⟨attempt, wait, e, policy.code e⟩
          host.sleep wait
          runFrom options policy host left (attempt + 1) (slept + wait)
      else
        host.report (.permanent attempt e (policy.code e))
        pure (.error e)

/-- Call the operation until it succeeds, fails for good, or runs out of attempts. -/
def run (options : Options) (policy : Policy ε) (host : BlockingHost m ε α) : m (Except ε α) :=
  runFrom options policy host (options.maxAttempts - 1) 1 .zero

end Blocking

end UnitOfWork.Retry
