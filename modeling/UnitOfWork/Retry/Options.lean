import UnitOfWork.Duration.Text
import UnitOfWork.Refusal
import UnitOfWork.Retry.Backoff

/-!
# Retry options

Options are drafted freely and then built. Building checks the number of attempts first and the order
of the two delays second, and the checks become fields of the built type: whoever holds options may
rely on them.
-/

set_option autoImplicit false

namespace UnitOfWork.Retry

def leastAttempts : Nat := 1

def mostAttempts : Nat := 100

def defaultAttempts : Nat := 5

def defaultBaseDelay : Duration := Duration.ofMillis 100

def defaultMaxDelay : Duration := Duration.ofMillis 10000

/-- Options nobody has checked. Attempts count the first call. -/
structure Draft where
  maxAttempts : Nat := defaultAttempts
  baseDelay : Duration := defaultBaseDelay
  maxDelay : Duration := defaultMaxDelay
  jitter : Jitter

/-- Options for one retry invocation. -/
structure Options extends Draft where
  least_le : leastAttempts ≤ maxAttempts
  le_most : maxAttempts ≤ mostAttempts
  base_le : baseDelay ≤ maxDelay

/-- Why a draft cannot be built. -/
inductive OptionsFault where
  | attempts (given : Nat)
  | delays (base max : Duration)
deriving DecidableEq

namespace OptionsFault

/-- The setting to blame. -/
def field : OptionsFault → String
  | .attempts _ => "max_attempts"
  | .delays .. => "base_delay"

def message : OptionsFault → String
  | .attempts given => s!"must be between {leastAttempts} and {mostAttempts}, got {given}"
  | .delays base max =>
    s!"base_delay ({base.text}) cannot be greater than max_delay ({max.text})"

def refusal (fault : OptionsFault) : Refusal := .config fault.message (some fault.field)

end OptionsFault

namespace Draft

/-- The first fault of a draft, or its options. -/
def build? (draft : Draft) : Except OptionsFault Options :=
  if attempts : leastAttempts ≤ draft.maxAttempts ∧ draft.maxAttempts ≤ mostAttempts then
    if delays : draft.baseDelay ≤ draft.maxDelay then
      .ok { draft with least_le := attempts.1, le_most := attempts.2, base_le := delays }
    else .error (.delays draft.baseDelay draft.maxDelay)
  else .error (.attempts draft.maxAttempts)

/-- The options of a draft, or the refusal that names its first fault. -/
def build (draft : Draft) : Except Refusal Options := draft.build?.mapError OptionsFault.refusal

end Draft

namespace Options

/-- The default options with a given jitter. -/
def standard (jitter : Jitter) : Options where
  jitter := jitter
  least_le := by decide
  le_most := by decide
  base_le := by decide

/-- The delay that follows a failed attempt. -/
def delayFor (options : Options) (attempt : Nat) : Duration :=
  delay attempt options.baseDelay options.maxDelay options.jitter

end Options

end UnitOfWork.Retry
