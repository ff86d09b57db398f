import UnitOfWork.Proofs.Retry.Watched
import UnitOfWork.Proofs.Steps
import UnitOfWork.Retry.Suspending

/-!
# Instants of a suspending run

A cancellation token fires once, and stays fired. What a run can meet of it is told by the requests made
so far: an instant lies before the run, inside some request, or in the wait that follows a delay. The
host below looks at the token as the run asks it to, and interrupts a wait for which the token fires
before the delay is over.

An instant at which a wait has just ended is told apart from one inside the wait: the wait is not cut
short then, and only the next look before a call finds the token fired.
-/

set_option autoImplicit false

namespace UnitOfWork.Retry

variable {ε α : Type}

/-- When a token fires. Requests of a kind are numbered from one. -/
inductive Instant where
  | never
  | beforeRun
  /-- Inside a request: a call of the operation or the observer, the request for a delay, a line of
  the log. -/
  | during (kind : Event.Kind) (n : Nat)
  /-- While a delay is waited out. -/
  | waiting (n : Nat)
  /-- When a delay has just been waited out. -/
  | waited (n : Nat)
deriving DecidableEq

namespace Instant

/-- Whether the token has fired when it is looked at before a call, after these requests. -/
def seen (events : List (Event ε)) : Instant → Bool
  | .never => false
  | .beforeRun => true
  | .during kind n => n ≤ requests kind events
  | .waiting n => n ≤ requests .sleep events
  | .waited n => n ≤ requests .sleep events

/-- Whether the token has fired before the delay is over that these requests end with. -/
def interrupts (events : List (Event ε)) : Instant → Bool
  | .waited n => n < requests .sleep events
  | instant => instant.seen events

/-- How many calls of the operation were begun at an instant of a run that goes on. -/
def calls : Instant → Option Nat
  | .never => none
  | .beforeRun => some 0
  | .during _ n => some n
  | .waiting n => some n
  | .waited n => some n

variable (instant : Instant) {events more : List (Event ε)}

/-- A token stays fired. -/
theorem seen_append (h : instant.seen events = true) : instant.seen (events ++ more) = true := by
  cases instant with
  | never => cases h
  | beforeRun => rfl
  | _ =>
    simp only [seen, requests_append, decide_eq_true_eq] at h ⊢
    exact Nat.le_add_right_of_le h

/-- A token that interrupts a wait is found fired after it. -/
theorem seen_of_interrupts (h : instant.interrupts events = true) :
    instant.seen events = true := by
  cases instant with
  | waited n =>
    simp only [interrupts, seen, decide_eq_true_eq] at h ⊢
    exact Nat.le_of_lt h
  | _ => exact h

/-- After as many requests of each kind, a token has fired exactly if it fires no later. -/
theorem seen_iff {calls : Nat} (h : ∀ kind, requests kind events = calls) :
    instant.seen events = true ↔ ∃ n, instant.calls = some n ∧ n ≤ calls := by
  cases instant <;> simp [seen, Instant.calls, h]

end Instant

namespace Script

variable (script : Script ε α)

/-- The host of a suspending run whose operation answers from a script. -/
def under (instant : Instant) : SuspendingHost (Watched ε) ε α where
  toCalls := script.calls
  isCancelled := fun events => (instant.seen events, events)
  pause delay := do
    noted (.sleep delay)
    pure (if instant.interrupts (← get) then .interrupted else .elapsed)

section Run

variable (instant : Instant) (events : List (Event ε))

theorem toCalls_under : (script.under instant).toCalls = script.calls := rfl

/-- The host of a script looks at the token without a request. -/
theorem run_isCancelled :
    (script.under instant).isCancelled.run events = (instant.seen events, events) := rfl

/-- A wait is cut short if the token fires before it is over. -/
theorem run_pause (delay : Duration) : ((script.under instant).pause delay).run events =
    (if instant.interrupts (events ++ [.sleep delay]) then .interrupted else .elapsed,
      events ++ [.sleep delay]) := rfl

end Run

end Script

end UnitOfWork.Retry
