import UnitOfWork.Retry.Sleeper
import UnitOfWork.Retry.Suspending

/-!
# Rehearsed runs

A rehearsal runs a retry on a bench. The bench counts calls, keeps what the observer and the sleeper
were told, and decides when the cancellation token fires. Waiting moves a virtual clock with ticks of
one millisecond: a wait ends at the first tick that is not before its end. A wait that would end past
the last instant of the clock takes thirty years instead.

A token due at an instant fires while the run is waiting. When a wait ends at that very tick, the run
goes on first and the token is seen at the next wait.
-/

set_option autoImplicit false

namespace UnitOfWork.Retry

/-- When the token of a rehearsal fires. -/
inductive Firing where
  | never
  | beforeRun
  | duringAttempt (n : Nat)
  | duringObserver (n : Nat)
  | duringDelayRequest (n : Nat)
  | atTick (n : Nat)
deriving DecidableEq, Repr

/-- The state of a rehearsal. -/
structure Bench (ε : Type) where
  sleeper : Sleeper := .recording
  firing : Firing := .never
  fired : Bool := false
  /-- Ticks passed. -/
  clock : Nat := 0
  calls : Nat := 0
  observed : List (Attempt ε) := []
  requested : Recorded := {}

namespace Bench

variable {ε α : Type}

/-- A bench before its run. -/
def ready (sleeper : Sleeper) (firing : Firing) : Bench ε :=
  { sleeper, firing, fired := firing == .beforeRun }

/-- Fire the token if this is the moment for it. -/
def fireAt (b : Bench ε) (moment : Firing) : Bench ε :=
  { b with fired := b.fired || b.firing == moment }

/-- Enter the next call of the operation. -/
def call (b : Bench ε) : Bench ε :=
  { b with calls := b.calls + 1 }.fireAt (.duringAttempt (b.calls + 1))

/-- Hear of an attempt that will be repeated. -/
def observe (b : Bench ε) (attempt : Attempt ε) : Bench ε :=
  { b with observed := b.observed ++ [attempt] }.fireAt (.duringObserver (b.observed.length + 1))

/-- Take the request for a delay. Only a sleeper that records and does not wait fires the token on a
request. -/
def request (b : Bench ε) (delay : Duration) : Bench ε :=
  if b.sleeper.records then
    let asked := { b with requested := b.requested.record delay }
    if b.sleeper.waits then asked
    else asked.fireAt (.duringDelayRequest (b.requested.count + 1))
  else b

/-- The last second of the clock. -/
def lastSecond : Nat := 0x7fffffffffffffff

/-- Ticks of thirty years of 365 days. -/
def thirtyYears : Nat := 30 * 365 * 86400 * 1000

/-- Ticks until a delay is over, from an early second of the clock. -/
def ticks (delay : Duration) : Nat :=
  if lastSecond ≤ delay.wholeSeconds then thirtyYears else (delay.nanos + 999999) / 1000000

/-- Wait until a tick, unless the token is due earlier. -/
def waitUntil (b : Bench ε) (tick : Nat) : Pause × Bench ε :=
  match b.firing with
  | .atTick due =>
    if due < tick then (.interrupted, { b with clock := max b.clock due, fired := true })
    else (.elapsed, { b with clock := tick })
  | _ => (.elapsed, { b with clock := tick })

/-- Request a delay, then wait for it or the token. -/
def pause (b : Bench ε) (delay : Duration) : Pause × Bench ε :=
  let b := b.request delay
  if b.fired then (.interrupted, b)
  else if b.sleeper.waits && 0 < delay.nanos then b.waitUntil (b.clock + ticks delay)
  else (.elapsed, b)

variable {n : Type → Type} [Monad n]

/-- The calls of a run on a bench; the operation and the log belong to the monad below, and the
observer may act there too. -/
def hostCalls (operation : Nat → n (Except ε α)) (onRetry : Nat → n Unit)
    (log : Log.Entry → n Unit) (text : ε → String) : Calls (StateT (Bench ε) n) ε α where
  operate attempt := do
    modify call
    operation attempt
  observe attempt := do
    modify (observe · attempt)
    onRetry (← get).observed.length
  report line := log (line.entry text)

/-- The host of a blocking run on a bench. Blocking waits leave the virtual clock alone. -/
def blockingHost (operation : Nat → n (Except ε α)) (onRetry : Nat → n Unit)
    (log : Log.Entry → n Unit) (text : ε → String) : BlockingHost (StateT (Bench ε) n) ε α where
  toCalls := hostCalls operation onRetry log text
  sleep delay := modify (request · delay)

/-- The host of a suspending run on a bench. -/
def suspendingHost (operation : Nat → n (Except ε α)) (onRetry : Nat → n Unit)
    (log : Log.Entry → n Unit) (text : ε → String) : SuspendingHost (StateT (Bench ε) n) ε α where
  toCalls := hostCalls operation onRetry log text
  isCancelled := return (← get).fired
  pause delay := modifyGet (pause · delay)

end Bench

/-- How a run is rehearsed. A token is looked at only under the suspending discipline. -/
structure Rehearsal where
  suspending : Bool := false
  sleeper : Sleeper := .recording
  firing : Firing := .never
  /-- Whether an observer listens. -/
  observed : Bool := true
deriving DecidableEq, Repr

/-- The result of a rehearsed run and the bench after it. The failures of a blocking run are the
operation's own. -/
structure Rehearsed (ε α : Type) where
  result : Except (Failure ε) α
  bench : Bench ε

namespace Rehearsal

variable {n : Type → Type} [Monad n] {ε α : Type}

/-- The calls with the observer left out, unless one listens. -/
def heard {m : Type → Type} [Monad m] (r : Rehearsal) (calls : Calls m ε α) : Calls m ε α :=
  if r.observed then calls else { calls with observe := fun _ => pure () }

/-- Run an operation on a bench under the discipline of the rehearsal. -/
def run (r : Rehearsal) (operation : Nat → n (Except ε α)) (log : Log.Entry → n Unit)
    (text : ε → String)
    (blocking : BlockingHost (StateT (Bench ε) n) ε α → StateT (Bench ε) n (Except ε α))
    (suspending : SuspendingHost (StateT (Bench ε) n) ε α →
      StateT (Bench ε) n (Except (Failure ε) α)) : n (Rehearsed ε α) :=
  if r.suspending then do
    let host := Bench.suspendingHost operation (fun _ => pure ()) log text
    let (result, bench) ← (suspending { host with toCalls := r.heard host.toCalls }).run
      (.ready r.sleeper r.firing)
    pure ⟨result, bench⟩
  else do
    let host := Bench.blockingHost operation (fun _ => pure ()) log text
    let (result, bench) ← (blocking { host with toCalls := r.heard host.toCalls }).run
      (.ready r.sleeper .never)
    pure ⟨result.mapError .operation, bench⟩

end Rehearsal

/-- The outcome of a numbered call, from a script whose last entry repeats. -/
def scripted {ε α : Type} (first : Except ε α) (rest : List (Except ε α)) (call : Nat) :
    Except ε α :=
  ((first :: rest)[call - 1]?).getD (rest.getLast?.getD first)

end UnitOfWork.Retry
