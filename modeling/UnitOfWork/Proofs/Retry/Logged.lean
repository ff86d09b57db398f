import Mathlib.Data.List.Forall2
import UnitOfWork.Proofs.Retry.Delays

/-!
# What the log says of a run

The log of a run says what the observer was told, one line for every attempt it was told of and in the
same order, and then how the run ended. `Retells` is what such a line says of an attempt, `Concludes`
what the last one says of the result: nothing at all of a success at the first attempt. Lines are read
by the names of their fields; spans are counted in whole milliseconds, of which a line carries the low
64 bits. The total is that of all delays the observer was told, cut at the widest span, so a delay that
the token interrupts counts in full.

Only a run as a whole keeps its log, since the last line is about all rounds; a round keeps that it logs
the attempt it tells the observer (`retold_round`) and that the delays are added up (`slept_rounds`).
-/

set_option autoImplicit false

namespace UnitOfWork

/-- The text of a field of an entry, the first of that name. -/
def Log.Entry.field? (entry : Log.Entry) (name : String) : Option String := entry.fields.lookup name

/-- An entry has a message, and the fields of these names have these texts, or are missing. -/
structure Log.Entry.Tells (entry : Log.Entry) (message : String)
    (fields : List (String × Option String)) : Prop where
  message : entry.message = message
  fields : ∀ field ∈ fields, entry.field? field.1 = field.2

namespace Retry

variable {ε α : Type}

/-! ## The statement -/

/-- The entry of a line of the log, given the text of a failure. -/
def Event.entry? (text : ε → String) : Event ε → Option Log.Entry
  | .report line => some (line.entry text)
  | _ => none

/-- The log of a run. -/
def logged (text : ε → String) (events : List (Event ε)) : List Log.Entry :=
  events.filterMap (Event.entry? text)

/-- The nanoseconds of the delays of some attempts together. -/
def delayNanos (attempts : List (Attempt ε)) : Nat :=
  (attempts.map fun attempt => attempt.delay.nanos).sum

/-- A count of nanoseconds as the log shows it. -/
def millisText (nanos : Nat) : String := toString (nanos / 1000000 % UInt64.size)

/-- The delays that the observer was told together, as the log shows them. -/
def totalText (events : List (Event ε)) : String :=
  millisText (min (delayNanos (told events)) Duration.limit)

section Specification

variable (options : Options) (policy : Policy ε) (text : ε → String)

/-- An entry says of an attempt what the observer is told of it. -/
def Retells (attempt : Attempt ε) (entry : Log.Entry) : Prop :=
  entry.Tells "Transient failure, retrying"
    [("attempt", some (toString attempt.number)), ("delay_ms", some (millisText attempt.delay.nanos)),
      ("error", some (text attempt.error)), ("error_code", attempt.code.map Driver.Code.text)]

/-- The log at the end of a run says how it ended, given the calls that were made and the total of the
delays. -/
inductive Concludes (calls : Nat) (total : String) :
    Except (Failure ε) α → List Log.Entry → Prop where
  | first {value : α} (first : calls = 1) : Concludes calls total (.ok value) []
  | recovered {value : α} {entry : Log.Entry} (again : 1 < calls)
      (tells : entry.Tells "Operation recovered after retry"
        [("attempts", some (toString calls)), ("total_delay_ms", some total)]) :
      Concludes calls total (.ok value) [entry]
  | permanent {e : ε} {entry : Log.Entry} (permanent : policy.isTransient e = false)
      (tells : entry.Tells "Permanent failure, not retrying"
        [("attempt", some (toString calls)), ("error", some (text e)),
          ("error_code", (policy.code e).map Driver.Code.text)]) :
      Concludes calls total (.error (.operation e)) [entry]
  | exhausted {e : ε} {entry : Log.Entry} (transient : policy.isTransient e = true)
      (last : calls = options.maxAttempts)
      (tells : entry.Tells "All retry attempts exhausted"
        [("max_attempts", some (toString options.maxAttempts)), ("total_delay_ms", some total),
          ("error", some (text e)), ("error_code", (policy.code e).map Driver.Code.text)]) :
      Concludes calls total (.error (.operation e)) [entry]
  | cancelled {entry : Log.Entry}
      (tells : entry.Tells "Retry cancelled"
        [("attempts", some (toString calls)), ("total_delay_ms", some total)]) :
      Concludes calls total (.error (.cancelled calls)) [entry]

/-- The log of a run accounts for it: a line for every attempt that the observer was told, in order,
and then how the run ended. -/
def Accounted (run : Except (Failure ε) α × List (Event ε)) : Prop :=
  ∃ retries ending, logged text run.2 = retries ++ ending ∧
    List.Forall₂ (Retells text) (told run.2) retries ∧
    Concludes options policy text (operations run.2) (totalText run.2) run.1 ending

end Specification

variable {options : Options} {policy : Policy ε} {text : ε → String} {script : Script ε α}

/-- The log shows whole milliseconds, of which it keeps the low 64 bits. -/
theorem millisText_nanos (d : Duration) : millisText d.nanos = toString d.loggedMillis := rfl

/-! ## Adding up -/

theorem logged_append (events more : List (Event ε)) :
    logged text (events ++ more) = logged text events ++ logged text more :=
  List.filterMap_append

/-- Delays of one stretch and the next add up. -/
theorem delayNanos_append (attempts more : List (Attempt ε)) :
    delayNanos (attempts ++ more) = delayNanos attempts + delayNanos more := by
  rw [delayNanos, List.map_append, List.sum_append]
  rfl

/-! ## One line -/

section Line

variable (text : ε → String) (code : Option Driver.Code) (total : Duration)

/-- A retry is logged as it is told to the observer. -/
theorem retells_retrying (maxAttempts : Nat) (attempt : Attempt ε) :
    Retells text attempt ((Report.retrying maxAttempts attempt).entry text) where
  message := rfl
  fields := by
    cases hcode : attempt.code <;>
      simp [Report.entry, Report.codeField, Log.optional, Log.Entry.field?, List.lookup_cons, hcode,
        millisText_nanos]

/-- The line about a recovery has the attempts that it took and the time spent waiting. -/
theorem tells_recovered (attempts : Nat) :
    ((Report.recovered attempts total).entry text).Tells "Operation recovered after retry"
      [("attempts", some (toString attempts)), ("total_delay_ms", some (millisText total.nanos))] where
  message := rfl
  fields := by
    simp [Report.entry, Report.totalField, Log.Entry.field?, List.lookup_cons, millisText_nanos]

/-- The line about a permanent failure has its attempt, its text and its code. -/
theorem tells_permanent (attempt : Nat) (e : ε) :
    ((Report.permanent attempt e code).entry text).Tells "Permanent failure, not retrying"
      [("attempt", some (toString attempt)), ("error", some (text e)),
        ("error_code", code.map Driver.Code.text)] where
  message := rfl
  fields := by
    cases code <;>
      simp [Report.entry, Report.codeField, Log.optional, Log.Entry.field?, List.lookup_cons]

/-- The line about the last failure has the attempts allowed, the time spent waiting, the text and
the code. -/
theorem tells_exhausted (maxAttempts : Nat) (e : ε) :
    ((Report.exhausted maxAttempts total e code).entry text).Tells "All retry attempts exhausted"
      [("max_attempts", some (toString maxAttempts)), ("total_delay_ms", some (millisText total.nanos)),
        ("error", some (text e)), ("error_code", code.map Driver.Code.text)] where
  message := rfl
  fields := by
    cases code <;>
      simp [Report.entry, Report.codeField, Report.totalField, Log.optional, Log.Entry.field?,
        List.lookup_cons, millisText_nanos]

/-- The line about a cancellation has the attempts begun and the time spent waiting. -/
theorem tells_cancelled (attempts : Nat) :
    ((Report.cancelled attempts total : Report ε).entry text).Tells "Retry cancelled"
      [("attempts", some (toString attempts)), ("total_delay_ms", some (millisText total.nanos))] where
  message := rfl
  fields := by
    simp [Report.entry, Report.totalField, Log.Entry.field?, List.lookup_cons, millisText_nanos]

end Line

/-! ## Rounds -/

/-- A round tells the observer of one attempt, and logs the same. -/
theorem retold_round (text : ε → String) {call : Nat} (hgoes : ¬ Ends options policy script call) :
    ∃ attempt : Attempt ε, attempt.delay = options.delayFor call ∧
      told (round options policy script call) = [attempt] ∧
      logged text (round options policy script call) =
        [(Report.retrying options.maxAttempts attempt).entry text] := by
  obtain ⟨⟨e, houtcome, -⟩, -⟩ := not_ends_iff.mp hgoes
  refine ⟨attemptOf options policy call e, rfl, ?_⟩
  unfold round
  rw [houtcome]
  exact ⟨rfl, rfl⟩

/-- Rounds that are followed by another call are logged as they are told, one line each. -/
theorem retold_rounds {calls : Nat}
    (hgoes : ∀ i, 1 ≤ i → i < calls + 1 → ¬ Ends options policy script i) :
    List.Forall₂ (Retells text) (told (rounds options policy script 1 (calls + 1)))
      (logged text (rounds options policy script 1 (calls + 1))) := by
  induction calls with
  | zero => exact .nil
  | succ calls ih =>
    obtain ⟨attempt, -, htold, hlogged⟩ :=
      retold_round text (hgoes (calls + 1) (by omega) (by omega))
    rw [rounds_concat (by omega), told_append, logged_append, htold, hlogged]
    refine List.rel_append (ih fun i hi hlt => hgoes i hi (by omega)) ?_
    exact .cons (retells_retrying text _ attempt) .nil

/-- The delays of the rounds are added up to the widest span. -/
theorem slept_rounds {calls : Nat}
    (hgoes : ∀ i, 1 ≤ i → i < calls + 1 → ¬ Ends options policy script i) :
    (sleptThrough options 1 (calls + 1) .zero).nanos =
      min (delayNanos (told (rounds options policy script 1 (calls + 1)))) Duration.limit := by
  induction calls with
  | zero => rfl
  | succ calls ih =>
    obtain ⟨attempt, hdelay, htold, -⟩ :=
      retold_round (fun _ => "") (hgoes (calls + 1) (by omega) (by omega))
    have hone : delayNanos [attempt] = (options.delayFor (calls + 1)).nanos := by
      rw [← hdelay]
      rfl
    rw [rounds_concat (by omega), told_append, htold, delayNanos_append, hone,
      sleptThrough_concat (by omega), Duration.nanos_add, ih fun i hi hlt => hgoes i hi (by omega)]
    omega

/-! ## The end of a run -/

/-- The log of the call that ends a run says how the run ended. -/
theorem concludes_closing {call : Nat} (hfirst : 1 ≤ call) (hends : Ends options policy script call)
    (slept : Duration) :
    Concludes options policy text call (millisText slept.nanos) ((script call).mapError .operation)
      (logged text (closing options policy script call slept)) := by
  unfold closing
  cases houtcome : script call with
  | ok value =>
    by_cases hagain : 1 < call
    · rw [if_pos hagain]
      exact .recovered hagain (tells_recovered text slept call)
    · rw [if_neg hagain]
      exact .first (by omega)
  | error e =>
    cases htransient : policy.isTransient e with
    | false =>
      simp only [htransient, Bool.false_eq_true, if_false]
      exact .permanent htransient (tells_permanent text (policy.code e) call e)
    | true =>
      have hlast : call = options.maxAttempts := by
        by_contra hne
        exact not_ends_iff.mpr ⟨⟨e, houtcome, htransient⟩, hne⟩ hends
      simp only [htransient, if_true]
      exact .exhausted htransient hlast (tells_exhausted text (policy.code e) slept _ e)

/-! ## The main statement -/

/-- A run that goes through to the call that ends it is accounted for. -/
theorem accounted_through {k : Nat} (hk : EndsFirst options policy script 1 k) :
    Accounted options policy text ((script k).mapError .operation,
      rounds options policy script 1 k ++
        .operate k :: closing options policy script k (sleptThrough options 1 k .zero)) := by
  obtain ⟨calls, rfl⟩ : ∃ calls, k = calls + 1 := Nat.exists_eq_add_one.mpr hk.first_le
  have htold (slept : Duration) : told (rounds options policy script 1 (calls + 1) ++
      .operate (calls + 1) :: closing options policy script (calls + 1) slept) =
        told (rounds options policy script 1 (calls + 1)) := by
    rw [told_append]
    change _ ++ told (closing options policy script (calls + 1) slept) = _
    rw [told_closing, List.append_nil]
  refine ⟨_, logged text (closing options policy script (calls + 1)
    (sleptThrough options 1 (calls + 1) .zero)), logged_append _ _, ?_, ?_⟩
  · rw [htold]
    exact retold_rounds hk.before
  · rw [operations_through hk, totalText, htold, ← slept_rounds hk.before]
    exact concludes_closing hk.first_le hk.ends _

/-- A run that is cut short is accounted for. -/
theorem accounted_cut {calls : Nat}
    (hgoes : ∀ i, 1 ≤ i → i < calls + 1 → ¬ Ends options policy script i) :
    Accounted options policy text ((.error (.cancelled calls) : Except (Failure ε) α),
      rounds options policy script 1 (calls + 1) ++
        [.report (.cancelled calls (sleptThrough options 1 (calls + 1) .zero))]) := by
  have htold (slept : Duration) : told (rounds options policy script 1 (calls + 1) ++
      [.report (.cancelled calls slept)]) = told (rounds options policy script 1 (calls + 1)) := by
    rw [told_append]
    exact List.append_nil _
  have hcalls (slept : Duration) : operations (rounds options policy script 1 (calls + 1) ++
      [.report (.cancelled calls slept)]) = calls := by
    rw [operations_append, operations_rounds hgoes]
    exact Nat.add_sub_cancel calls 1
  refine ⟨_, [(Report.cancelled calls (sleptThrough options 1 (calls + 1) .zero)).entry text],
    logged_append _ _, ?_, ?_⟩
  · rw [htold]
    exact retold_rounds hgoes
  · rw [hcalls, totalText, htold, ← slept_rounds hgoes]
    exact .cancelled (tells_cancelled text _ calls)

/-- The log accounts for every run under a token, whenever that fires. -/
theorem accounted_suspending (options : Options) (policy : Policy ε) (script : Script ε α)
    (text : ε → String) (instant : Instant) :
    Accounted options policy text
      ((Suspending.run options policy (script.under instant)).run []) := by
  obtain ⟨k, hk⟩ : ∃ k, EndsFirst options policy script 1 k :=
    exists_endsFirst (Nat.add_sub_cancel' options.least_le)
  obtain ⟨calls, hlt, hrun⟩ | hrun := run_stops_or_through hk instant
  · rw [hrun]
    exact accounted_cut fun i hi hle => hk.before i hi (by omega)
  · rw [hrun]
    exact accounted_through hk

/-- The log of every run accounts for it, under either discipline and whenever the token fires: one line
for every attempt that the observer was told, in the same order, and then one line for the result, which
is missing for a success at the first attempt only. -/
theorem log_accounts (options : Options) (policy : Policy ε) (script : Script ε α)
    (text : ε → String) :
    let blocking := (Blocking.run options policy script.host).run []
    Accounted options policy text (blocking.1.mapError .operation, blocking.2) ∧
      ∀ instant, Accounted options policy text
        ((Suspending.run options policy (script.under instant)).run []) := by
  intro blocking
  refine ⟨?_, accounted_suspending options policy script text⟩
  -- The blocking run is the suspending run whose token never fires.
  have hnever := accounted_suspending options policy script text .never
  rwa [run_under_never] at hnever

end Retry

end UnitOfWork
