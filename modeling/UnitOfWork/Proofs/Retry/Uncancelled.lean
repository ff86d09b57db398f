import UnitOfWork.Proofs.Retry.Instant

/-!
# The suspending run under a token that never fires

The blocking run is the suspending run whose token never fires. The equation holds over every lawful
monad and every host, so it speaks of the calls of the operation and the observer, the delays and the
log at once, whatever the operation and the observer do besides. A failure of the operation is handed
on inside the suspending failure, and no run is cancelled.
-/

set_option autoImplicit false

namespace UnitOfWork.Retry

variable {ε α : Type}

section Host

variable {m : Type → Type} [Monad m]

/-- The host of a suspending run whose token never fires. -/
def BlockingHost.uncancelled (host : BlockingHost m ε α) : SuspendingHost m ε α where
  toCalls := host.toCalls
  isCancelled := pure false
  pause delay := do
    host.sleep delay
    pure .elapsed

variable (host : BlockingHost m ε α)

@[simp] theorem BlockingHost.toCalls_uncancelled : host.uncancelled.toCalls = host.toCalls := rfl

@[simp] theorem BlockingHost.isCancelled_uncancelled :
    host.uncancelled.isCancelled = pure false := rfl

@[simp] theorem BlockingHost.pause_uncancelled (delay : Duration) :
    host.uncancelled.pause delay = (do host.sleep delay; pure .elapsed) := rfl

variable [LawfulMonad m] (options : Options) (policy : Policy ε)

/-- The two loops ask for the same from every attempt on, by induction on the attempts that are
left. -/
theorem suspending_runFrom_uncancelled (left attempt : Nat) (slept : Duration) :
    Suspending.runFrom options policy host.uncancelled left attempt slept =
      Except.mapError Failure.operation <$>
        Blocking.runFrom options policy host left attempt slept := by
  induction left generalizing attempt slept with
  | zero =>
    unfold Suspending.runFrom Blocking.runFrom
    simp only [BlockingHost.isCancelled_uncancelled, pure_bind, Bool.false_eq_true, if_false,
      BlockingHost.toCalls_uncancelled, map_bind]
    congr 1
    funext outcome
    cases outcome with
    | ok value => simp
    | error e => cases h : policy.isTransient e <;> simp [h]
  | succ left ih =>
    unfold Suspending.runFrom Blocking.runFrom
    simp only [BlockingHost.isCancelled_uncancelled, pure_bind, Bool.false_eq_true, if_false,
      BlockingHost.toCalls_uncancelled, map_bind]
    congr 1
    funext outcome
    cases outcome with
    | ok value => simp
    | error e => cases h : policy.isTransient e <;> simp [h, ih]

/-- A suspending run whose token never fires is the blocking run. -/
theorem suspending_run_uncancelled :
    Suspending.run options policy host.uncancelled =
      Except.mapError Failure.operation <$> Blocking.run options policy host :=
  suspending_runFrom_uncancelled host options policy _ _ _

end Host

/-- Never firing is one way not to have a token. -/
theorem Script.under_never (script : Script ε α) : script.under .never = script.host.uncancelled :=
  rfl

/-- Over a script the two runs have the same requests, and the result is handed on. -/
theorem run_under_never (options : Options) (policy : Policy ε) (script : Script ε α) :
    (Suspending.run options policy (script.under .never)).run [] =
      (((Blocking.run options policy script.host).run []).1.mapError .operation,
        ((Blocking.run options policy script.host).run []).2) := by
  rw [Script.under_never, suspending_run_uncancelled]
  rfl

/-- Handing a failure on loses nothing of a result. -/
theorem mapError_operation_injective {x y : Except ε α}
    (h : x.mapError Failure.operation = y.mapError Failure.operation) : x = y := by
  cases x <;> cases y <;> simp_all

/-- A failure that was handed on is the failure of the operation. -/
theorem mapError_operation_iff {x : Except ε α} {e : ε} :
    x.mapError Failure.operation = .error (.operation e) ↔ x = .error e := by
  cases x <;> simp

/-- Under a token that never fires the suspending run asks for what the blocking run asks for: the same
calls of the operation, attempts told to the observer, lines of the log and delays, in the same order.
It succeeds with the same value, fails with the same failure of the operation, and is never cancelled.
The second part says it of a host that writes every request down; the first part holds of any host, so
of any observer, and of an operation that answers by what it and the observer did before. -/
theorem run_without_firing (options : Options) (policy : Policy ε) :
    (∀ {m : Type → Type} [Monad m] [LawfulMonad m] (host : BlockingHost m ε α),
      Suspending.run options policy host.uncancelled =
        Except.mapError Failure.operation <$> Blocking.run options policy host) ∧
    ∀ script : Script ε α,
      let suspending := (Suspending.run options policy (script.under .never)).run []
      let blocking := (Blocking.run options policy script.host).run []
      suspending.2 = blocking.2 ∧
        (∀ value, suspending.1 = .ok value ↔ blocking.1 = .ok value) ∧
        (∀ e, suspending.1 = .error (.operation e) ↔ blocking.1 = .error e) ∧
        ∀ calls, suspending.1 ≠ .error (.cancelled calls) := by
  refine ⟨fun host => suspending_run_uncancelled host options policy, fun script => ?_⟩
  intro suspending blocking
  have hrun : suspending = (blocking.1.mapError .operation, blocking.2) :=
    run_under_never options policy script
  rw [hrun]
  refine ⟨rfl, fun value => mapError_eq_ok_iff, fun e => mapError_operation_iff, fun calls => ?_⟩
  cases blocking.1 <;> simp

end UnitOfWork.Retry
