import UnitOfWork.Duration
import UnitOfWork.Retry.Jitter

/-!
# Exponential backoff

The delay after a failed attempt doubles with every attempt, up to a cap, and is then stretched by a
factor, up to the same cap. Doubling stops after thirty times. The stretch is computed in binary64 on
nanoseconds and read back as a 64-bit count, so the sum of the rounding steps, the clamp of the count
and the cap decide the last digits.
-/

set_option autoImplicit false

namespace UnitOfWork.Retry

/-- Doublings after which the delay stops growing. -/
def greatestExponent : Nat := 30

/-- Doublings before the delay that follows an attempt; attempts count from one. -/
def exponent (attempt : Nat) : Nat := min (attempt - 1) greatestExponent

/-- The delay without jitter, at most the cap. -/
def exponentialDelay (attempt : Nat) (base cap : Duration) : Duration :=
  (base.scale (1 <<< exponent attempt)).shorter cap

/-- A delay stretched by one plus a factor, at most the cap. A factor that is not above zero leaves
the delay as it is. -/
def stretch (candidate : Duration) (factor : Binary64) (cap : Duration) : Duration :=
  let candidate := candidate.shorter cap
  if factor.isNonPositive then candidate
  else
    let stretched := Binary64.mul (Binary64.ofNat candidate.nanos) (Binary64.onePlus factor.value)
    if stretched.atLeast (Binary64.ofNat cap.nanos) then cap
    else Duration.ofNanos stretched.toCount

/-- The delay that follows an attempt. -/
def delay (attempt : Nat) (base cap : Duration) (jitter : Jitter) : Duration :=
  stretch (exponentialDelay attempt base cap) (jitter.factor attempt) cap

end UnitOfWork.Retry
