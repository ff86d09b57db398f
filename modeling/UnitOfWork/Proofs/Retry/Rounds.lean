import UnitOfWork.Proofs.Retry.Instant

/-!
# The rounds of a run

A run ends at the first call that succeeds, fails for good, or is the last one allowed. Every call
before it fails with a failure worth another attempt; the run logs the attempt, tells the observer,
asks for the delay, and calls again. `Ends` and `EndsFirst` say where in terms of the script, the
policy and the number of attempts alone, and `rounds` is all that happens before.

The three steps of the suspending loop are `runFrom_seen`, `runFrom_closes` and `runFrom_retries`, and
`run_rounds` follows by induction on the calls: as long as the token is not found fired before a call,
rounds follow each other. The invariant ties three counters together: the attempt the loop is at, the
attempts left, and the calls the host has taken. The later modules know no more of the loop than these.
-/

set_option autoImplicit false

namespace UnitOfWork.Retry

variable {ε α : Type}

/-! ## The specification -/

section Specification

variable (options : Options) (policy : Policy ε) (script : Script ε α)

/-- A call whose outcome ends the run. -/
def Ends (call : Nat) : Prop :=
  (∃ value, script call = .ok value) ∨
    (∃ e, script call = .error e ∧ policy.isTransient e = false) ∨
    call = options.maxAttempts

/-- The first call, from one on, whose outcome ends the run. -/
structure EndsFirst (first call : Nat) : Prop where
  first_le : first ≤ call
  ends : Ends options policy script call
  before : ∀ i, first ≤ i → i < call → ¬ Ends options policy script i

/-- A failed call that will be repeated, as the observer hears of it. -/
def attemptOf (call : Nat) (e : ε) : Attempt ε :=
  ⟨call, options.delayFor call, e, policy.code e⟩

/-- What a run asks for from a failed call to the next. -/
def round (call : Nat) : List (Event ε) :=
  match script call with
  | .error e =>
    [.operate call, .report (.retrying options.maxAttempts (attemptOf options policy call e)),
      .observe (attemptOf options policy call e), .sleep (options.delayFor call)]
  | .ok _ => []

/-- The same without the log: the failed call, what the observer is told of it, and the delay. -/
def retryOf (call : Nat) : List (Event ε) :=
  match script call with
  | .error e =>
    [.operate call, .observe (attemptOf options policy call e), .sleep (options.delayFor call)]
  | .ok _ => []

/-- The rounds from one call up to another. -/
def rounds (first last : Nat) : List (Event ε) :=
  (List.range' first (last - first)).flatMap (round options policy script)

/-- The delays of those rounds, added to the delays before. -/
def sleptThrough (first last : Nat) (slept : Duration) : Duration :=
  (List.range' first (last - first)).foldl (fun total i => total + options.delayFor i) slept

/-- The log of the call that ends a run. -/
def closing (call : Nat) (slept : Duration) : List (Event ε) :=
  match script call with
  | .ok _ => if 1 < call then [.report (.recovered call slept)] else []
  | .error e =>
    if policy.isTransient e then
      [.report (.exhausted options.maxAttempts slept e (policy.code e))]
    else [.report (.permanent call e (policy.code e))]

end Specification

variable {options : Options} {policy : Policy ε} {script : Script ε α}

/-- A call that does not end the run fails, with a failure worth another attempt. -/
theorem not_ends_iff {call : Nat} :
    ¬ Ends options policy script call ↔
      (∃ e, script call = .error e ∧ policy.isTransient e = true) ∧ call ≠ options.maxAttempts := by
  cases h : script call with
  | ok value => simp [Ends, h]
  | error e => simp [Ends, h]

/-- A failure worth another attempt ends a run only where no attempt is left. -/
theorem Ends.left_eq_zero {call left : Nat} {e : ε} (h : Ends options policy script call)
    (houtcome : script call = .error e) (htransient : policy.isTransient e = true)
    (hleft : call + left = options.maxAttempts) : left = 0 := by
  obtain ⟨value, hok⟩ | ⟨e', hfailed, hpermanent⟩ | hlast := h
  · cases houtcome.symm.trans hok
  · cases houtcome.symm.trans hfailed
    cases htransient.symm.trans hpermanent
  · omega

/-! ## The first call that ends a run -/

/-- Only one call is the first to end a run. -/
theorem EndsFirst.unique {first j k : Nat} (hj : EndsFirst options policy script first j)
    (hk : EndsFirst options policy script first k) : j = k := by
  have hle {i l : Nat} (hi : EndsFirst options policy script first i)
      (hl : EndsFirst options policy script first l) : l ≤ i :=
    Nat.le_of_not_lt fun hlt => hl.before i hi.first_le hlt hi.ends
  exact Nat.le_antisymm (hle hk hj) (hle hj hk)

/-- The first end, seen from a call that does not end the run. -/
theorem EndsFirst.cons {first call : Nat} (hgoes : ¬ Ends options policy script first)
    (h : EndsFirst options policy script (first + 1) call) :
    EndsFirst options policy script first call := by
  refine ⟨Nat.le_of_succ_le h.first_le, h.ends, fun i hi hlt => ?_⟩
  obtain rfl | hgt := Nat.eq_or_lt_of_le hi
  · exact hgoes
  · exact h.before i hgt hlt

/-- Some call is the first to end a run, since the attempts are limited. -/
theorem exists_endsFirst {first left : Nat} (hleft : first + left = options.maxAttempts) :
    ∃ k, EndsFirst options policy script first k := by
  induction left generalizing first with
  | zero => exact ⟨first, Nat.le_refl _, .inr (.inr hleft), fun i hi hlt => by omega⟩
  | succ left ih =>
    by_cases hends : Ends options policy script first
    · exact ⟨first, Nat.le_refl _, hends, fun i hi hlt => by omega⟩
    · have hnext : first + 1 + left = options.maxAttempts := by omega
      obtain ⟨k, hk⟩ := ih hnext
      exact ⟨k, hk.cons hends⟩

/-- A run ends at the last attempt allowed, if not before. -/
theorem EndsFirst.le_maxAttempts {call : Nat} (h : EndsFirst options policy script 1 call) :
    call ≤ options.maxAttempts :=
  Nat.le_of_not_lt fun hlt => h.before _ options.least_le hlt (.inr (.inr rfl))

/-! ## Rounds in order -/

theorem rounds_concat {first last : Nat} (h : first ≤ last) :
    rounds options policy script first (last + 1) =
      rounds options policy script first last ++ round options policy script last := by
  have hlength : last + 1 - first = last - first + 1 := by omega
  have hlast : first + 1 * (last - first) = last := by omega
  simp only [rounds, hlength, List.range'_concat, hlast, List.flatMap_append,
    List.flatMap_singleton]

theorem sleptThrough_concat {first last : Nat} (h : first ≤ last) (slept : Duration) :
    sleptThrough options first (last + 1) slept =
      sleptThrough options first last slept + options.delayFor last := by
  have hlength : last + 1 - first = last - first + 1 := by omega
  have hlast : first + 1 * (last - first) = last := by omega
  simp only [sleptThrough, hlength, List.range'_concat, hlast, List.foldl_append, List.foldl_cons,
    List.foldl_nil]

/-- A round that does not end the run makes one request of each kind. -/
theorem requests_round (kind : Event.Kind) {call : Nat}
    (hgoes : ¬ Ends options policy script call) :
    requests kind (round options policy script call) = 1 := by
  obtain ⟨⟨e, houtcome, -⟩, -⟩ := not_ends_iff.mp hgoes
  simp only [round, houtcome]
  cases kind <;> rfl

/-- Rounds that do not end the run make one request of each kind each. -/
theorem requests_rounds (kind : Event.Kind) {first last : Nat}
    (hgoes : ∀ i, first ≤ i → i < last → ¬ Ends options policy script i) :
    requests kind (rounds options policy script first last) = last - first := by
  have hone : ∀ i ∈ List.range' first (last - first),
      requests kind (round options policy script i) = 1 := by
    intro i hi
    obtain ⟨hle, hlt⟩ := List.mem_range'_1.mp hi
    exact requests_round kind (hgoes i hle (by omega))
  calc requests kind (rounds options policy script first last)
      = ((List.range' first (last - first)).map fun i =>
          requests kind (round options policy script i)).sum := List.countP_flatMap
    _ = ((List.range' first (last - first)).map fun _ => 1).sum := by
          rw [List.map_congr_left hone]
    _ = last - first := by
          rw [List.map_const', List.sum_replicate_nat, List.length_range', Nat.mul_one]

/-- Each round calls the operation once. -/
theorem operations_rounds {first last : Nat}
    (hgoes : ∀ i, first ≤ i → i < last → ¬ Ends options policy script i) :
    operations (rounds options policy script first last) = last - first := by
  rw [← requests_operate, requests_rounds .operate hgoes]

/-- Without the log a round is its call and what is asked for between it and the next one. -/
theorem unlogged_round (call : Nat) :
    unlogged (round options policy script call) = retryOf options policy script call := by
  unfold round retryOf
  split <;> rfl

/-- Without the log rounds are such calls one after another. -/
theorem unlogged_rounds (first last : Nat) :
    unlogged (rounds options policy script first last) =
      (List.range' first (last - first)).flatMap (retryOf options policy script) := by
  simp only [unlogged, rounds, List.filter_flatMap]
  congr 1
  funext call
  exact unlogged_round call

/-- What ends a run is only logged. -/
theorem unlogged_closing (call : Nat) (slept : Duration) :
    unlogged (closing options policy script call slept) = [] := by
  unfold closing
  split <;> split <;> rfl

/-- Without the log a run is its rounds and the last call. -/
theorem unlogged_through (call : Nat) (slept : Duration) :
    unlogged (rounds options policy script 1 call ++
      .operate call :: closing options policy script call slept) =
        (List.range' 1 (call - 1)).flatMap (retryOf options policy script) ++ [.operate call] := by
  rw [unlogged_append, unlogged_rounds]
  change _ ++ .operate call :: unlogged (closing options policy script call slept) = _
  rw [unlogged_closing]

/-- Behind the last call no delay is asked for. -/
theorem sleeps_closing (call : Nat) (slept : Duration) :
    requests .sleep (closing options policy script call slept) = 0 := by
  unfold closing
  split <;> split <;> rfl

/-- A run that ends with a call has made as many calls as that. -/
theorem operations_through {k : Nat} (hk : EndsFirst options policy script 1 k) (slept : Duration) :
    operations (rounds options policy script 1 k ++
      .operate k :: closing options policy script k slept) = k := by
  have hfirst := hk.first_le
  rw [← operations_unlogged, unlogged_through, operations_append, ← unlogged_rounds,
    operations_unlogged, operations_rounds hk.before]
  change k - 1 + 1 = k
  omega

/-- It has waited once before each call but the first. -/
theorem sleeps_through {k : Nat} (hk : EndsFirst options policy script 1 k) (slept : Duration) :
    requests .sleep (rounds options policy script 1 k ++
      .operate k :: closing options policy script k slept) = k - 1 := by
  have hlast : requests .sleep (.operate k :: closing options policy script k slept) = 0 :=
    sleeps_closing k slept
  rw [requests_append, requests_rounds .sleep hk.before, hlast, Nat.add_zero]

/-! ## The steps of the loop -/

section Steps

open Script

variable {instant : Instant} {left attempt : Nat} (slept : Duration) {events : List (Event ε)}

/-- A cancelled run says so in the log and returns how often it called. -/
theorem run_cancel (calls : Nat) :
    (Suspending.cancel (script.under instant) calls slept).run events =
      (.error (.cancelled calls), events ++ [.report (.cancelled calls slept)]) := rfl

/-- A token that has fired before a call ends the run. -/
theorem runFrom_seen (hseen : instant.seen events = true) :
    (Suspending.runFrom options policy (script.under instant) left attempt slept).run events =
      (.error (.cancelled (attempt - 1)),
        events ++ [.report (.cancelled (attempt - 1) slept)]) := by
  unfold Suspending.runFrom
  simp only [run_bind, run_isCancelled, hseen, if_true, run_cancel]

/-- A call that ends the run is the last request but for the log, and its outcome is returned, also
when the token fires inside it. -/
theorem runFrom_closes (hcount : operations events + 1 = attempt)
    (hleft : attempt + left = options.maxAttempts) (hends : Ends options policy script attempt)
    (hunseen : instant.seen events = false) :
    (Suspending.runFrom options policy (script.under instant) left attempt slept).run events =
      ((script attempt).mapError .operation,
        events ++ .operate attempt :: closing options policy script attempt slept) := by
  subst hcount
  unfold Suspending.runFrom
  simp only [run_bind, run_isCancelled, hunseen, Bool.false_eq_true, if_false, toCalls_under,
    run_operate]
  cases houtcome : script (operations events + 1) with
  | ok value =>
    simp only [run_bind, run_succeed, run_pure, closing, houtcome, List.append_assoc,
      List.singleton_append, mapError_ok]
  | error e =>
    cases htransient : policy.isTransient e with
    | false =>
      simp only [Bool.false_eq_true, if_false, run_bind, run_report, run_pure, closing, houtcome,
        htransient, List.append_assoc, List.singleton_append, mapError_error]
    | true =>
      obtain rfl : left = 0 := hends.left_eq_zero houtcome htransient hleft
      simp only [if_true, run_bind, run_report, run_pure, closing, houtcome, htransient,
        List.append_assoc, List.singleton_append, mapError_error]

/-- A call that does not end the run is followed by its round and the next look at the token. A wait
that the token interrupts comes to the same: the look would find the token fired, and both give the
same number of calls. -/
theorem runFrom_retries (hcount : operations events + 1 = attempt)
    (hgoes : ¬ Ends options policy script attempt) (hunseen : instant.seen events = false) :
    (Suspending.runFrom options policy (script.under instant) (left + 1) attempt slept).run events =
      (Suspending.runFrom options policy (script.under instant) left (attempt + 1)
        (slept + options.delayFor attempt)).run
        (events ++ round options policy script attempt) := by
  subst hcount
  obtain ⟨⟨e, houtcome, htransient⟩, -⟩ := not_ends_iff.mp hgoes
  have hround : round options policy script (operations events + 1) =
      [.operate (operations events + 1),
        .report (.retrying options.maxAttempts
          (attemptOf options policy (operations events + 1) e)),
        .observe (attemptOf options policy (operations events + 1) e),
        .sleep (options.delayFor (operations events + 1))] := by
    simp only [round, houtcome]
  rw [hround, Suspending.runFrom]
  simp only [run_bind, run_isCancelled, hunseen, Bool.false_eq_true, if_false, toCalls_under,
    run_operate, houtcome, htransient, if_true, run_announce, run_pause, attemptOf,
    List.append_assoc, List.cons_append, List.nil_append]
  generalize events ++ _ = after
  cases hinterrupts : instant.interrupts after with
  | false => rfl
  | true =>
    rw [runFrom_seen _ (instant.seen_of_interrupts hinterrupts), if_pos rfl]
    exact run_cancel _ _

/-- While no call ends the run, and the token is not found fired before any of them, the rounds of the
first calls are all that a run asks for until it looks at the token again. -/
theorem run_rounds {calls : Nat} (hleft : calls + 1 + left = options.maxAttempts)
    (hgoes : ∀ i, 1 ≤ i → i < calls + 1 → ¬ Ends options policy script i)
    (hunseen : ∀ i, i < calls → instant.seen (rounds options policy script 1 (i + 1)) = false) :
    (Suspending.run options policy (script.under instant)).run [] =
      (Suspending.runFrom options policy (script.under instant) left (calls + 1)
        (sleptThrough options 1 (calls + 1) .zero)).run
        (rounds options policy script 1 (calls + 1)) := by
  -- One more call in front of the next look takes one attempt of those left.
  induction calls generalizing left with
  | zero =>
    obtain rfl : left = options.maxAttempts - 1 := by omega
    rfl
  | succ calls ih =>
    have hbefore : ∀ i, 1 ≤ i → i < calls + 1 → ¬ Ends options policy script i :=
      fun i hi hlt => hgoes i hi (Nat.lt_succ_of_lt hlt)
    have hcount : operations (rounds options policy script 1 (calls + 1)) + 1 = calls + 1 := by
      rw [operations_rounds hbefore, Nat.add_sub_cancel]
    have hone : calls + 1 + (left + 1) = options.maxAttempts := by omega
    rw [ih hone hbefore fun i hi => hunseen i (Nat.lt_succ_of_lt hi),
      runFrom_retries _ hcount (hgoes (calls + 1) (by omega) (by omega))
        (hunseen calls (Nat.lt_succ_self calls)),
      ← rounds_concat (by omega), ← sleptThrough_concat (by omega)]

/-- A run that does not find the token fired before a call ends with the first call that ends it. -/
theorem run_through {k : Nat} (hk : EndsFirst options policy script 1 k)
    (hunseen : ∀ i, i < k → instant.seen (rounds options policy script 1 (i + 1)) = false) :
    (Suspending.run options policy (script.under instant)).run [] =
      ((script k).mapError .operation,
        rounds options policy script 1 k ++
          .operate k :: closing options policy script k (sleptThrough options 1 k .zero)) := by
  obtain ⟨calls, rfl⟩ : ∃ calls, k = calls + 1 := Nat.exists_eq_add_one.mpr hk.first_le
  have hleft : calls + 1 + (options.maxAttempts - (calls + 1)) = options.maxAttempts :=
    Nat.add_sub_cancel' hk.le_maxAttempts
  have hcount : operations (rounds options policy script 1 (calls + 1)) + 1 = calls + 1 := by
    rw [operations_rounds hk.before, Nat.add_sub_cancel]
  rw [run_rounds hleft hk.before fun i hi => hunseen i (Nat.lt_succ_of_lt hi),
    runFrom_closes _ hcount hleft hk.ends (hunseen calls (Nat.lt_succ_self calls))]

end Steps

end UnitOfWork.Retry
