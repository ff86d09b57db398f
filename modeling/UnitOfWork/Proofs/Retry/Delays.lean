import UnitOfWork.Proofs.Retry.Blocking
import UnitOfWork.Proofs.Retry.Cancellation
import UnitOfWork.Proofs.Retry.Stretching

/-!
# The delays a run hands out

A run tells the observer the delay that follows each failed attempt, and asks the sleeper for the same
delay. `Paced` says which ones: those of the attempts in their order, as many as rounds were begun. A
run that goes through and a run that its token stops have that in common (`paced_suspending`), since both
begin with whole rounds.

So what holds of the delay of every attempt holds of every delay handed out, and `delays_within_cap` says
the two things a caller counts on: no delay passes the cap, whatever the jitter answers, and a factor
that stretches nothing leaves the exponential delay.
-/

set_option autoImplicit false

namespace UnitOfWork.Retry

variable {ε α : Type}

/-! ## What is handed out -/

namespace Event

/-- The attempt, if the observer is told of one. -/
def attempt? : Event ε → Option (Attempt ε)
  | .observe attempt => some attempt
  | _ => none

/-- The delay, if the sleeper is asked for one. -/
def delay? : Event ε → Option Duration
  | .sleep delay => some delay
  | _ => none

end Event

/-- The failed attempts the observer was told of. -/
def told (events : List (Event ε)) : List (Attempt ε) := events.filterMap Event.attempt?

/-- The delays the sleeper was asked for. -/
def asked (events : List (Event ε)) : List Duration := events.filterMap Event.delay?

/-- The delays handed out are those of the first attempts, to the observer and to the sleeper. -/
structure Paced (options : Options) (rounds : Nat) (events : List (Event ε)) : Prop where
  told : (told events).map (fun a => (a.number, a.delay)) =
    (List.range' 1 rounds).map fun i => (i, options.delayFor i)
  asked : asked events = (List.range' 1 rounds).map options.delayFor

variable {options : Options} {policy : Policy ε} {script : Script ε α} {instant : Instant}

theorem told_append (events more : List (Event ε)) : told (events ++ more) = told events ++ told more :=
  List.filterMap_append

theorem asked_append (events more : List (Event ε)) :
    asked (events ++ more) = asked events ++ asked more := List.filterMap_append

/-- Requests that hand nothing out change nothing. -/
theorem Paced.append {rounds : Nat} {events more : List (Event ε)} (h : Paced options rounds events)
    (htold : Retry.told more = []) (hasked : Retry.asked more = []) :
    Paced options rounds (events ++ more) where
  told := by rw [told_append, htold, List.append_nil, h.told]
  asked := by rw [asked_append, hasked, List.append_nil, h.asked]

/-- One more round hands out one more delay. -/
theorem Paced.round {n : Nat} {events : List (Event ε)} (h : Paced options n events)
    (hgoes : ¬ Ends options policy script (n + 1)) :
    Paced options (n + 1) (events ++ round options policy script (n + 1)) := by
  obtain ⟨⟨e, houtcome, -⟩, -⟩ := not_ends_iff.mp hgoes
  have hlast : 1 + 1 * n = n + 1 := by omega
  have htold : Retry.told (Retry.round options policy script (n + 1)) =
      [attemptOf options policy (n + 1) e] := by
    simp only [Retry.round, houtcome]
    rfl
  have hasked : Retry.asked (Retry.round options policy script (n + 1)) =
      [options.delayFor (n + 1)] := by
    simp only [Retry.round, houtcome]
    rfl
  constructor
  · rw [told_append, htold, List.map_append, h.told, List.range'_concat, List.map_append, hlast]
    rfl
  · rw [asked_append, hasked, h.asked, List.range'_concat, List.map_append, hlast]
    rfl

/-- Rounds that are followed by another call are paced: one delay after each call, told and asked
for. -/
theorem paced_rounds {n : Nat} (hgoes : ∀ i, 1 ≤ i → i < n + 1 → ¬ Ends options policy script i) :
    Paced options n (rounds options policy script 1 (n + 1)) := by
  induction n with
  | zero => exact ⟨rfl, rfl⟩
  | succ n ih =>
    rw [rounds_concat (by omega)]
    exact (ih fun i hi hlt => hgoes i hi (by omega)).round (hgoes (n + 1) (by omega) (by omega))

/-- Behind the last call the observer is told nothing. -/
theorem told_closing (call : Nat) (slept : Duration) :
    told (closing options policy script call slept) = [] := by
  unfold closing
  split <;> split <;> rfl

theorem asked_closing (call : Nat) (slept : Duration) :
    asked (closing options policy script call slept) = [] := by
  unfold closing
  split <;> split <;> rfl

/-- The call that ends a run hands nothing out. -/
theorem paced_through {k : Nat} (hk : EndsFirst options policy script 1 k) (slept : Duration) :
    Paced options (k - 1) (rounds options policy script 1 k ++
      .operate k :: closing options policy script k slept) := by
  obtain ⟨n, rfl⟩ : ∃ n, k = n + 1 := Nat.exists_eq_add_one.mpr hk.first_le
  exact (paced_rounds hk.before).append (told_closing _ slept) (asked_closing _ slept)

/-! ## Whole runs -/

/-- A suspending run hands out the delays of the attempts in their order: of all that failed, or of
those before the token stopped it. -/
theorem paced_suspending {k : Nat} (hk : EndsFirst options policy script 1 k) (instant : Instant) :
    let run := (Suspending.run options policy (script.under instant)).run []
    (∃ calls, run.1 = .error (.cancelled calls) ∧ Paced options calls run.2) ∨
      (run.1 = (script k).mapError .operation ∧ Paced options (k - 1) run.2) := by
  intro run
  rcases run_stops_or_through hk instant with ⟨calls, hlt, hrun⟩ | hrun
  · left
    refine ⟨calls, congrArg Prod.fst hrun, ?_⟩
    have hgoes : ∀ i, 1 ≤ i → i < calls + 1 → ¬ Ends options policy script i :=
      fun i hi h => hk.before i hi (by omega)
    show Paced options calls ((Suspending.run options policy (script.under instant)).run []).2
    rw [hrun]
    exact (paced_rounds hgoes).append rfl rfl
  · right
    refine ⟨congrArg Prod.fst hrun, ?_⟩
    show Paced options (k - 1) ((Suspending.run options policy (script.under instant)).run []).2
    rw [hrun]
    exact paced_through hk _

/-- A blocking run hands out the delays of all attempts before the one that ends it. -/
theorem paced_blocking (options : Options) (policy : Policy ε) (script : Script ε α) :
    let run := (Blocking.run options policy script.host).run []
    ∃ k, EndsFirst options policy script 1 k ∧ run.1 = script k ∧ Paced options (k - 1) run.2 := by
  intro run
  obtain ⟨k, hk, hrun⟩ := run_trace options policy script
  refine ⟨k, hk, congrArg Prod.fst hrun, ?_⟩
  show Paced options (k - 1) ((Blocking.run options policy script.host).run []).2
  rw [hrun]
  exact paced_through hk _

/-! ## The cap -/

/-- A delay as it may follow an attempt: at most the cap, and the exponential delay where the factor
stretches nothing. -/
structure Within (options : Options) (attempt : Nat) (delay : Duration) : Prop where
  le_cap : delay ≤ options.maxDelay
  exact : IsIdle (options.jitter.raw attempt) →
    delay = exponentialDelay attempt options.baseDelay options.maxDelay

/-- Every delay handed out is as it may be, and the sleeper is asked for what the observer is told. -/
structure Measured (options : Options) (events : List (Event ε)) : Prop where
  told : ∀ a ∈ told events, Within options a.number a.delay
  asked : asked events = (Retry.told events).map Attempt.delay

/-- Every delay keeps within its cap, and is exact where nothing stretches it. -/
theorem within_delayFor (options : Options) (attempt : Nat) :
    Within options attempt (options.delayFor attempt) := ⟨delay_le, delay_of_isIdle⟩

/-- What is paced is measured by the options. -/
theorem Paced.measured {n : Nat} {events : List (Event ε)} (h : Paced options n events) :
    Measured options events := by
  constructor
  · intro a ha
    have hmem : (a.number, a.delay) ∈ (Retry.told events).map fun a => (a.number, a.delay) :=
      List.mem_map_of_mem ha
    rw [h.told, List.mem_map] at hmem
    obtain ⟨i, -, hi⟩ := hmem
    obtain ⟨hnumber, hdelay⟩ := Prod.mk.inj hi
    rw [← hnumber, ← hdelay]
    exact within_delayFor options i
  · have hdelays := congrArg (List.map Prod.snd) h.told
    rw [List.map_map, List.map_map] at hdelays
    rw [h.asked]
    exact hdelays.symm

/-- No delay passes the cap, whatever the jitter answers, and a factor that is zero, negative or no
number leaves the exponential delay. This holds of the delay of every attempt, and so of every delay that
a run hands out, blocking or suspending, whenever its token fires. -/
theorem delays_within_cap (options : Options) (policy : Policy ε) :
    (∀ attempt, Within options attempt (options.delayFor attempt)) ∧
      (∀ script : Script ε α,
        Measured options ((Blocking.run options policy script.host).run []).2) ∧
      ∀ (script : Script ε α) (instant : Instant),
        Measured options ((Suspending.run options policy (script.under instant)).run []).2 := by
  refine ⟨within_delayFor options, ?_, ?_⟩
  · intro script
    obtain ⟨k, -, -, hpaced⟩ := paced_blocking options policy script
    exact hpaced.measured
  · intro script instant
    obtain ⟨k, hk⟩ : ∃ k, EndsFirst options policy script 1 k :=
      exists_endsFirst (Nat.add_sub_cancel' options.least_le)
    rcases paced_suspending hk instant with ⟨calls, -, hpaced⟩ | ⟨-, hpaced⟩
    · exact hpaced.measured
    · exact hpaced.measured

end UnitOfWork.Retry
