import UnitOfWork.Proofs.Logic
import UnitOfWork.Proofs.Retry.Uncancelled

/-!
# Hosts that answer as a script does

The operation of a retry may act on a world of its own, and what it answers may depend on what it did
there. As long as its answers are those of a script, call by call, a run over its host is the run over the
script: same result, same requests in the same order. `Answers` asks this of every request alone, with
the state of the host in step with the requests made so far; the two loops carry it through the run.

The operation is only asked for its next call, and only once the observer has been told of all the calls
before (`Announced`). Both loops keep to this: the attempt that they pass along is one more than the calls
made, and a call that is not the last is told of before the next.
-/

set_option autoImplicit false

namespace UnitOfWork.Retry

variable {m : Type → Type} [Monad m] {σ ε α β γ : Type}

/-! ## One computation following another -/

/-- A computation comes to what another one comes to after some requests, and its state is then in step
with the requests. -/
def Follows (L : Logic m σ) (R : List (Event ε) → σ → Prop) (x : m β) (y : Watched ε β)
    (events : List (Event ε)) (s : σ) : Prop :=
  L.Ensures x s fun b s' => b = (y.run events).1 ∧ R (y.run events).2 s'

section Follows

variable {L : Logic m σ} {R : List (Event ε) → σ → Prop} {events : List (Event ε)} {s : σ}

theorem Follows.pure (b : β) (h : R events s) : Follows L R (Pure.pure b) (Pure.pure b) events s :=
  L.pure ⟨rfl, h⟩

/-- A run follows the script through a sequence if it follows it through both parts. -/
theorem Follows.bind {x : m β} {y : Watched ε β} {f : β → m γ} {g : β → Watched ε γ}
    (first : Follows L R x y events s)
    (rest : ∀ s', R (y.run events).2 s' →
      Follows L R (f (y.run events).1) (g (y.run events).1) (y.run events).2 s') :
    Follows L R (x >>= f) (y >>= g) events s := by
  refine L.bind (L.mono first ?_)
  rintro b s' ⟨rfl, h⟩
  exact rest s' h

end Follows

/-! ## Hosts -/

/-- Every call of the operation was told to the observer. -/
def Announced (events : List (Event ε)) : Prop := requests .observe events = operations events

/-- The calls of a run answer as a script does. -/
structure Calls.Answers (L : Logic m σ) (R : List (Event ε) → σ → Prop) (script : Script ε α)
    (calls : Calls m ε α) : Prop where
  operate : ∀ {events : List (Event ε)} {s : σ}, Announced events → R events s →
    Follows L R (calls.operate (operations events + 1)) (script.calls.operate (operations events + 1))
      events s
  observe : ∀ {events : List (Event ε)} {s : σ} (attempt : Attempt ε), R events s →
    Follows L R (calls.observe attempt) (script.calls.observe attempt) events s
  report : ∀ {events : List (Event ε)} {s : σ} (line : Report ε), R events s →
    Follows L R (calls.report line) (script.calls.report line) events s

/-- The host of a blocking run answers as a script does. -/
structure BlockingHost.Answers (L : Logic m σ) (R : List (Event ε) → σ → Prop)
    (script : Script ε α) (host : BlockingHost m ε α) : Prop
    extends Calls.Answers L R script host.toCalls where
  sleep : ∀ {events : List (Event ε)} {s : σ} (delay : Duration), R events s →
    Follows L R (host.sleep delay) (script.host.sleep delay) events s

/-- The host of a suspending run answers as a script does, its token firing at an instant. -/
structure SuspendingHost.Answers (L : Logic m σ) (R : List (Event ε) → σ → Prop)
    (script : Script ε α) (instant : Instant) (host : SuspendingHost m ε α) : Prop
    extends Calls.Answers L R script host.toCalls where
  isCancelled : ∀ {events : List (Event ε)} {s : σ}, R events s →
    Follows L R host.isCancelled (script.under instant).isCancelled events s
  pause : ∀ {events : List (Event ε)} {s : σ} (delay : Duration), R events s →
    Follows L R (host.pause delay) ((script.under instant).pause delay) events s

variable {L : Logic m σ} {R : List (Event ε) → σ → Prop} {script : Script ε α} {instant : Instant}
  {events : List (Event ε)} {s : σ} {options : Options} {policy : Policy ε}

section Calls

variable {calls : Calls m ε α} (h : Calls.Answers L R script calls)

include h

theorem Calls.Answers.succeed (attempt : Nat) (slept : Duration) (step : R events s) :
    Follows L R (calls.succeed attempt slept) (script.calls.succeed attempt slept) events s := by
  unfold Calls.succeed
  split
  · exact h.report _ step
  · exact .pure () step

/-- A retry is announced alike on both sides: a line in the log and a word to the observer. -/
theorem Calls.Answers.announce (attempt : Attempt ε) (step : R events s) :
    Follows L R (calls.announce options attempt) (script.calls.announce options attempt) events s :=
  (h.report _ step).bind fun _ => h.observe attempt

/-- What ends a run is logged and returned. -/
theorem Calls.Answers.over {result : β} (line : Report ε) (step : R events s) :
    Follows L R (do
      calls.report line
      Pure.pure result) (do
      script.calls.report line
      Pure.pure result) events s :=
  (h.report line step).bind fun _ => .pure _

/-- The next call of the operation and what is done about its outcome, given what is done about a
failure that is worth another attempt. -/
theorem Calls.Answers.called {δ : Type} {fail : ε → δ} {again : ε → m (Except δ α)}
    {others : ε → Watched ε (Except δ α)} {attempt : Nat} (slept : Duration)
    (count : operations events + 1 = attempt) (announced : Announced events) (step : R events s)
    (transient : ∀ {e : ε} {after : List (Event ε)} {s' : σ}, operations after = attempt →
      requests .observe after + 1 = attempt → R after s' →
        Follows L R (again e) (others e) after s') :
    Follows L R (do
      match ← calls.operate attempt with
      | .ok value =>
        calls.succeed attempt slept
        Pure.pure (.ok value)
      | .error e =>
        if policy.isTransient e then again e
        else
          calls.report (.permanent attempt e (policy.code e))
          Pure.pure (.error (fail e))) (do
      match ← script.calls.operate attempt with
      | .ok value =>
        script.calls.succeed attempt slept
        Pure.pure (.ok value)
      | .error e =>
        if policy.isTransient e then others e
        else
          script.calls.report (.permanent attempt e (policy.code e))
          Pure.pure (.error (fail e))) events s := by
  subst count
  refine (h.operate announced step).bind fun s' step => ?_
  have made : operations ((script.calls.operate (operations events + 1)).run events).2 =
      operations events + 1 := operations_append events _
  have told : requests .observe ((script.calls.operate (operations events + 1)).run events).2 =
      operations events := (requests_append .observe events _).trans announced
  generalize (script.calls.operate _).run events = r at made told step ⊢
  obtain ⟨outcome, after⟩ := r
  cases outcome with
  | ok value => exact (h.succeed _ slept step).bind fun _ => .pure _
  | error e =>
    cases htransient : policy.isTransient e with
    | false =>
      simp only [htransient, Bool.false_eq_true, if_false]
      exact h.over _ step
    | true =>
      simp only [htransient, if_true]
      exact transient made (congrArg (· + 1) told) step

end Calls

/-! ## Runs -/

section Announced

variable (attempt : Attempt ε) (delay : Duration) {calls : Nat}

/-- A failed attempt that is announced and slept off was one call. -/
theorem operations_announced (made : operations events = calls) :
    operations (((script.calls.announce options attempt).run events).2 ++ [.sleep delay]) = calls := by
  rw [Script.run_announce, operations_append, operations_append]
  exact made

/-- It was told of, so that every call has been if all others had. -/
theorem Announced.announce (made : operations events = calls)
    (told : requests .observe events + 1 = calls) :
    Announced (((script.calls.announce options attempt).run events).2 ++ [.sleep delay]) := by
  unfold Announced
  rw [operations_announced attempt delay made, ← told, Script.run_announce, requests_append,
    requests_append]
  rfl

end Announced

/-- The blocking loop, by induction on the attempts left. -/
theorem BlockingHost.Answers.runFrom {host : BlockingHost m ε α}
    (h : BlockingHost.Answers L R script host) {left attempt : Nat} (slept : Duration)
    (count : operations events + 1 = attempt) (announced : Announced events) (step : R events s) :
    Follows L R (Blocking.runFrom options policy host left attempt slept)
      (Blocking.runFrom options policy script.host left attempt slept) events s := by
  induction left generalizing attempt slept events s with
  | zero =>
    unfold Blocking.runFrom
    exact h.called slept count announced step fun _ _ step => h.over _ step
  | succ left ih =>
    unfold Blocking.runFrom
    refine h.called slept count announced step fun made told step => ?_
    refine (h.announce _ step).bind fun s step => (h.sleep _ step).bind fun s step => ?_
    exact ih _ (congrArg (· + 1) (operations_announced _ _ made)) (.announce _ _ made told) step

/-- A blocking run over a host that answers as a script does is the run over the script. -/
theorem BlockingHost.Answers.run {host : BlockingHost m ε α}
    (h : BlockingHost.Answers L R script host) (start : R [] s) :
    Follows L R (Blocking.run options policy host) (Blocking.run options policy script.host) [] s :=
  h.runFrom .zero rfl rfl start

/-- The suspending loop, by induction on the attempts left. -/
theorem SuspendingHost.Answers.runFrom {host : SuspendingHost m ε α}
    (h : SuspendingHost.Answers L R script instant host) {left attempt : Nat} (slept : Duration)
    (count : operations events + 1 = attempt) (announced : Announced events) (step : R events s) :
    Follows L R (Suspending.runFrom options policy host left attempt slept)
      (Suspending.runFrom options policy (script.under instant) left attempt slept) events s := by
  induction left generalizing attempt slept events s with
  | zero =>
    unfold Suspending.runFrom
    refine (h.isCancelled step).bind fun s step => ?_
    cases ((script.under instant).isCancelled.run events).1 with
    | true => exact h.over _ step
    | false => exact h.called slept count announced step fun _ _ step => h.over _ step
  | succ left ih =>
    unfold Suspending.runFrom
    refine (h.isCancelled step).bind fun s step => ?_
    cases ((script.under instant).isCancelled.run events).1 with
    | true => exact h.over _ step
    | false =>
      refine h.called slept count announced step fun made told step => ?_
      refine (h.announce _ step).bind fun s step => (h.pause _ step).bind fun s step => ?_
      cases (((script.under instant).pause _).run _).1 with
      | interrupted => exact h.over _ step
      | elapsed =>
        exact ih _ (congrArg (· + 1) (operations_announced _ _ made)) (.announce _ _ made told) step

/-- A suspending run over a host that answers as a script does is the run over the script. -/
theorem SuspendingHost.Answers.run {host : SuspendingHost m ε α}
    (h : SuspendingHost.Answers L R script instant host) (start : R [] s) :
    Follows L R (Suspending.run options policy host)
      (Suspending.run options policy (script.under instant)) [] s :=
  h.runFrom .zero rfl rfl start

end UnitOfWork.Retry
