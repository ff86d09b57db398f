import UnitOfWork.Scope.Suspending

/-!
# One attempt at a unit of work

An attempt enlists its connections one after the other without an ambient transaction, completes, and
disposes of the scope whatever the completion said. A connection that does not enlist ends the attempt
and drops the scope. A disposal that fails is reported before the outcome of the completion.
-/

set_option autoImplicit false

namespace UnitOfWork.Scope

variable {m : Type → Type} [Monad m] {H : Type}

/-- Enlist connections in order until one fails. -/
def enlistEach (host : Host m H) : List (Adapter m H) → Scope H →
    m (Except TransactionError Unit × Scope H)
  | [], s => pure (.ok (), s)
  | adapter :: rest, s => do
    let enlisted ← enlist host adapter none [] s
    match enlisted.outcome with
    | .error e => pure (.error e, enlisted.scope)
    | .ok _ => enlistEach host rest enlisted.scope

/-- The first failure of a disposal and the completion before it. -/
def settle (completed disposed : Except TransactionError Unit) : Except TransactionError Unit :=
  match disposed with
  | .error e => .error e
  | .ok () => completed

/-- An attempt under the blocking discipline. -/
def Blocking.attempt (host : Host m H) (adapters : List (Adapter m H)) (s : Scope H) :
    m (Except TransactionError Unit) := do
  match ← enlistEach host adapters s with
  | (.error e, s) =>
    let _ ← Blocking.drop host s
    pure (.error e)
  | (.ok (), s) =>
    let (completed, s) ← Blocking.complete host s
    let (disposed, s) ← Blocking.dispose host s
    let _ ← Blocking.drop host s
    pure (settle completed disposed)

/-- An attempt under the suspending discipline, without a token. -/
def Suspending.attempt (host : Host m H) (adapters : List (Adapter m H)) (s : Scope H) :
    m (Except TransactionError Unit) := do
  match ← enlistEach host adapters s with
  | (.error e, s) =>
    let _ ← Suspending.drop host s
    pure (.error e)
  | (.ok (), s) =>
    let (completed, s) ← Suspending.complete host.uncancelled s
    let (disposed, s) ← Suspending.dispose host.uncancelled s
    let _ ← Suspending.drop host s
    pure (settle completed disposed)

end UnitOfWork.Scope
