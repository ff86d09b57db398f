import UnitOfWork.Retry.Blocking

/-!
# A retry watched from outside

The laws of a retry speak of what it asks of its host: calls of the operation, attempts told to the
observer, delays asked of the sleeper, lines of the log. Here every request is written down in order.
The operation answers from a script, one outcome for every call that can be made. The host numbers the
calls it takes; the number that the run passes along is not looked at, so a run that miscounts shows.
-/

set_option autoImplicit false

namespace UnitOfWork.Retry

variable {ε α : Type}

/-- A request of a run. Calls of the operation are numbered from one by the host. -/
inductive Event (ε : Type) where
  | operate (call : Nat)
  | observe (attempt : Attempt ε)
  | sleep (delay : Duration)
  | report (line : Report ε)

/-- The four kinds of requests. -/
inductive Event.Kind where
  | operate
  | observe
  | sleep
  | report
deriving DecidableEq

namespace Event

def kind : Event ε → Kind
  | .operate _ => .operate
  | .observe _ => .observe
  | .sleep _ => .sleep
  | .report _ => .report

def isOperate : Event ε → Bool
  | .operate _ => true
  | _ => false

def isReport : Event ε → Bool
  | .report _ => true
  | _ => false

end Event

/-- How many requests of a kind were made. -/
def requests (kind : Event.Kind) (events : List (Event ε)) : Nat :=
  events.countP (·.kind == kind)

/-- How often the operation was called. -/
def operations (events : List (Event ε)) : Nat := events.countP Event.isOperate

/-- The requests without the log. -/
def unlogged (events : List (Event ε)) : List (Event ε) :=
  events.filter fun event => !event.isReport

/-- Requests of one stretch and the next add up. -/
theorem requests_append (kind : Event.Kind) (events more : List (Event ε)) :
    requests kind (events ++ more) = requests kind events + requests kind more :=
  List.countP_append

/-- Calls of the operation are the requests of one kind. -/
theorem requests_operate (events : List (Event ε)) :
    requests .operate events = operations events := by
  unfold requests operations
  congr 1
  funext event
  cases event <;> rfl

/-- Calls of one stretch and the next add up. -/
theorem operations_append (events more : List (Event ε)) :
    operations (events ++ more) = operations events + operations more :=
  List.countP_append

/-- A request that is no call is not counted as one. -/
theorem operations_concat {event : Event ε} (events : List (Event ε))
    (quiet : event.isOperate = false) : operations (events ++ [event]) = operations events := by
  simp [operations, quiet]

/-- A request is counted among those of its kind only. -/
theorem requests_concat {kind : Event.Kind} {event : Event ε} (events : List (Event ε))
    (other : event.kind ≠ kind) : requests kind (events ++ [event]) = requests kind events := by
  simp [requests, other]

theorem unlogged_append (events more : List (Event ε)) :
    unlogged (events ++ more) = unlogged events ++ unlogged more :=
  List.filter_append ..

/-- The log does not count. -/
theorem operations_unlogged (events : List (Event ε)) :
    operations (unlogged events) = operations events := by
  rw [operations, unlogged, List.countP_filter]
  congr 1
  funext event
  cases event <;> rfl

/-- Runs whose requests are written down. -/
abbrev Watched (ε : Type) := StateM (List (Event ε))

section Run

variable {β γ : Type} (events : List (Event ε))

theorem run_pure (b : β) : (pure b : Watched ε β).run events = (b, events) := rfl

/-- What comes second is asked for after what comes first. -/
theorem run_bind (x : Watched ε β) (f : β → Watched ε γ) :
    (x >>= f).run events = (f (x.run events).1).run (x.run events).2 := rfl

end Run

/-- Write a request down. -/
def noted (event : Event ε) : Watched ε Unit := modify (· ++ [event])

/-- What the operation answers to each of its calls, the first being call one. -/
abbrev Script (ε α : Type) := Nat → Except ε α

namespace Script

/-- The calls of a run whose operation answers from a script. -/
def calls (script : Script ε α) : Calls (Watched ε) ε α where
  operate _ := do
    let call := operations (← get) + 1
    noted (.operate call)
    pure (script call)
  observe attempt := noted (.observe attempt)
  report line := noted (.report line)

/-- The host of a blocking run whose operation answers from a script. -/
def host (script : Script ε α) : BlockingHost (Watched ε) ε α where
  toCalls := script.calls
  sleep delay := noted (.sleep delay)

section Run

variable (script : Script ε α) (events : List (Event ε))

/-- The host numbers the calls that it takes, and answers by its own number. -/
theorem run_operate (attempt : Nat) : (script.calls.operate attempt).run events =
    (script (operations events + 1), events ++ [.operate (operations events + 1)]) := rfl

/-- An attempt that is told is written down. -/
theorem run_observe (attempt : Attempt ε) :
    (script.calls.observe attempt).run events = ((), events ++ [.observe attempt]) := rfl

/-- So is a line of the log. -/
theorem run_report (line : Report ε) :
    (script.calls.report line).run events = ((), events ++ [.report line]) := rfl

/-- A success is logged only if it was not the first attempt. -/
theorem run_succeed (attempt : Nat) (slept : Duration) :
    (script.calls.succeed attempt slept).run events =
      ((), events ++ if 1 < attempt then [.report (.recovered attempt slept)] else []) := by
  unfold Calls.succeed
  split
  · rfl
  · exact congrArg (Prod.mk ()) (List.append_nil events).symm

/-- A retry is logged first, and told to the observer then. -/
theorem run_announce (options : Options) (attempt : Attempt ε) :
    (script.calls.announce options attempt).run events =
      ((), events ++ [.report (.retrying options.maxAttempts attempt), .observe attempt]) := by
  simp only [Calls.announce, run_bind, run_report, run_observe, List.append_assoc,
    List.singleton_append]

end Run

end Script

end UnitOfWork.Retry
