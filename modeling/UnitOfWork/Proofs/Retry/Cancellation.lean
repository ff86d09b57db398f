import UnitOfWork.Proofs.Retry.Rounds

/-!
# A run that is cancelled

A token only cuts a run short. Whatever the instant at which it fires, the run goes through the same
rounds as the run whose token never fires. When the token fires before the call that ends the run is
begun, the run stops after the round in which it fired: that round is told to the observer and its delay
is requested, no further call is made, and the failure gives the number of calls. When the token fires
later, inside the call that ends the run or not at all, nothing changes.

`CutShort` is what such a run comes to, and `run_cut_short` the main statement. The log is left out of
the comparison: a cancelled run ends with a line of its own.
-/

set_option autoImplicit false

namespace UnitOfWork.Retry

variable {ε α : Type}

/-! ## The specification -/

/-- After the token has fired the operation is not called. -/
def Timely (instant : Instant) (events : List (Event ε)) : Prop :=
  ∀ before after, events = before ++ after → instant.seen before = true → operations after = 0

/-- What a run comes to that is cancelled after a number of calls. -/
structure CutShort (options : Options) (policy : Policy ε) (script : Script ε α) (instant : Instant)
    (calls : Nat) (run : Except (Failure ε) α × List (Event ε)) : Prop where
  result : run.1 = .error (.cancelled calls)
  operations : operations run.2 = calls
  /-- The log apart, the rounds of those calls and nothing else. -/
  events : unlogged run.2 = (List.range' 1 calls).flatMap (retryOf options policy script)
  last : (unlogged run.2).getLast? =
    if calls = 0 then none else some (.sleep (options.delayFor calls))
  timely : Timely instant run.2

variable {options : Options} {policy : Policy ε} {script : Script ε α} {instant : Instant}

/-- Before a call up to which no call ends the run, a token is found fired exactly if it fires in an
earlier round or before the run. -/
theorem seen_rounds_iff {calls : Nat}
    (hgoes : ∀ i, 1 ≤ i → i < calls + 1 → ¬ Ends options policy script i) :
    instant.seen (rounds options policy script 1 (calls + 1)) = true ↔
      ∃ n, instant.calls = some n ∧ n ≤ calls :=
  instant.seen_iff fun kind => requests_rounds kind hgoes

/-- The last request of some rounds, the log apart, is the delay of the last call. -/
theorem getLast?_retries {calls : Nat}
    (hgoes : ∀ i, 1 ≤ i → i < calls + 1 → ¬ Ends options policy script i) :
    ((List.range' 1 calls).flatMap (retryOf options policy script)).getLast? =
      if calls = 0 then none else some (.sleep (options.delayFor calls)) := by
  cases calls with
  | zero => rfl
  | succ calls =>
    obtain ⟨⟨e, houtcome, -⟩, -⟩ := not_ends_iff.mp (hgoes (calls + 1) (by omega) (by omega))
    have hlast : 1 + 1 * calls = calls + 1 := by omega
    rw [List.range'_concat, hlast, List.flatMap_append, List.flatMap_singleton,
      List.getLast?_append, retryOf, houtcome, if_neg (Nat.succ_ne_zero calls)]
    rfl

/-! ## No call after the token has fired -/

section Timely

variable {events : List (Event ε)}

/-- Where nothing is called, nothing is called late. -/
theorem timely_of_quiet (h : operations events = 0) : Timely instant events := by
  intro before after hsplit _
  rw [hsplit, operations_append] at h
  exact Nat.eq_zero_of_add_eq_zero_left h

/-- The last call is timely when the token is not found fired before it, and so are all before. -/
theorem timely_of_unseen {call : Nat} {more : List (Event ε)}
    (hunseen : instant.seen events = false) (hmore : operations more = 0) :
    Timely instant (events ++ .operate call :: more) := by
  intro before after hsplit hseen
  rcases List.append_eq_append_iff.mp hsplit with ⟨rest, hbefore, hafter⟩ | ⟨rest, hevents, -⟩
  · cases rest with
    | nil =>
      rw [hbefore, List.append_nil] at hseen
      cases hunseen.symm.trans hseen
    | cons event rest =>
      rw [List.cons_append] at hafter
      obtain ⟨-, hrest⟩ := List.cons.inj hafter
      rw [hrest, operations_append] at hmore
      exact Nat.eq_zero_of_add_eq_zero_left hmore
  · -- The token was found fired earlier, so also right before the call.
    rw [hevents] at hunseen
    cases hunseen.symm.trans (instant.seen_append hseen)

/-- Rounds and a last line of the log are timely if the token is not found fired before the last of
their calls. -/
theorem timely_rounds {calls : Nat} (line : Report ε)
    (hgoes : ∀ i, 1 ≤ i → i < calls + 1 → ¬ Ends options policy script i)
    (hunseen : ∀ i, i < calls → instant.seen (rounds options policy script 1 (i + 1)) = false) :
    Timely instant (rounds options policy script 1 (calls + 1) ++ [.report line]) := by
  cases calls with
  | zero => exact timely_of_quiet rfl
  | succ calls =>
    obtain ⟨⟨e, houtcome, -⟩, -⟩ := not_ends_iff.mp (hgoes (calls + 1) (by omega) (by omega))
    rw [rounds_concat (by omega), round, houtcome, List.append_assoc]
    exact timely_of_unseen (hunseen calls (Nat.lt_succ_self calls)) rfl

end Timely

/-! ## The two ways of a run -/

/-- Before the calls that begin no later than a token fires, it is not found fired. -/
theorem unseen_rounds (instant : Instant) {calls : Nat}
    (hgoes : ∀ i, 1 ≤ i → i < calls → ¬ Ends options policy script i)
    (hlate : ∀ n, instant.calls = some n → calls ≤ n) :
    ∀ i, i < calls → instant.seen (rounds options policy script 1 (i + 1)) = false := by
  intro i hi
  rw [Bool.eq_false_iff, ne_eq, seen_rounds_iff fun j hj hlt => hgoes j hj (by omega)]
  rintro ⟨n, hn, hle⟩
  have := hlate n hn
  omega

/-- A token that fires in a round, or before the run, ends the run after that round. -/
theorem run_cut {k calls : Nat} (hk : EndsFirst options policy script 1 k)
    (hcalls : instant.calls = some calls) (hlt : calls < k) :
    (Suspending.run options policy (script.under instant)).run [] =
      (.error (.cancelled calls), rounds options policy script 1 (calls + 1) ++
        [.report (.cancelled calls (sleptThrough options 1 (calls + 1) .zero))]) := by
  have hgoes : ∀ i, 1 ≤ i → i < calls + 1 → ¬ Ends options policy script i :=
    fun i hi hle => hk.before i hi (by omega)
  have hunseen := unseen_rounds instant (fun i hi hlt => hgoes i hi (by omega))
    fun n hn => Nat.le_of_eq (Option.some.inj (hcalls.symm.trans hn))
  have hseen : instant.seen (rounds options policy script 1 (calls + 1)) = true :=
    (seen_rounds_iff hgoes).mpr ⟨calls, hcalls, Nat.le_refl calls⟩
  have hle := hk.le_maxAttempts
  have hleft : calls + 1 + (options.maxAttempts - (calls + 1)) = options.maxAttempts := by omega
  rw [run_rounds hleft hgoes hunseen, runFrom_seen _ hseen, Nat.add_sub_cancel]

/-- A token that fires no earlier than in the last call changes nothing. -/
theorem run_whole (instant : Instant) {k : Nat} (hk : EndsFirst options policy script 1 k)
    (hlate : ∀ calls, instant.calls = some calls → k ≤ calls) :
    (Suspending.run options policy (script.under instant)).run [] =
      ((script k).mapError .operation, rounds options policy script 1 k ++
        .operate k :: closing options policy script k (sleptThrough options 1 k .zero)) :=
  run_through hk (unseen_rounds instant hk.before hlate)

/-- Either the token ends the run after whole rounds, or the run goes through to the call that ends it. -/
theorem run_stops_or_through {k : Nat} (hk : EndsFirst options policy script 1 k)
    (instant : Instant) :
    let run := (Suspending.run options policy (script.under instant)).run []
    (∃ calls, calls < k ∧ run = (.error (.cancelled calls),
        rounds options policy script 1 (calls + 1) ++
          [.report (.cancelled calls (sleptThrough options 1 (calls + 1) .zero))])) ∨
      run = ((script k).mapError .operation, rounds options policy script 1 k ++
        .operate k :: closing options policy script k (sleptThrough options 1 k .zero)) := by
  intro run
  by_cases hcut : ∃ calls, instant.calls = some calls ∧ calls < k
  · obtain ⟨calls, hcalls, hlt⟩ := hcut
    exact .inl ⟨calls, hlt, run_cut hk hcalls hlt⟩
  · have hlate : ∀ calls, instant.calls = some calls → k ≤ calls := fun calls hcalls =>
      Nat.le_of_not_lt fun hlt => hcut ⟨calls, hcalls, hlt⟩
    exact .inr (run_whole instant hk hlate)

/-! ## The main statement -/

/-- A token that fires in a round, or before the run, cuts the run short after that round. -/
theorem cutShort_run {k calls : Nat} (hk : EndsFirst options policy script 1 k)
    (hcalls : instant.calls = some calls) (hlt : calls < k) :
    CutShort options policy script instant calls
      ((Suspending.run options policy (script.under instant)).run []) := by
  have hgoes : ∀ i, 1 ≤ i → i < calls + 1 → ¬ Ends options policy script i :=
    fun i hi hle => hk.before i hi (by omega)
  have hunseen := unseen_rounds instant (fun i hi hlt => hgoes i hi (by omega))
    fun n hn => Nat.le_of_eq (Option.some.inj (hcalls.symm.trans hn))
  have hquiet (slept : Duration) :
      operations [(.report (.cancelled calls slept) : Event ε)] = 0 := rfl
  have hunlogged : unlogged (rounds options policy script 1 (calls + 1)) =
      (List.range' 1 calls).flatMap (retryOf options policy script) := unlogged_rounds 1 (calls + 1)
  rw [run_cut hk hcalls hlt]
  have hevents (slept : Duration) : unlogged (rounds options policy script 1 (calls + 1) ++
      [.report (.cancelled calls slept)]) =
        (List.range' 1 calls).flatMap (retryOf options policy script) := by
    rw [unlogged_append, hunlogged]
    exact List.append_nil _
  exact
    { result := rfl
      operations := by
        rw [operations_append, hquiet, operations_rounds hgoes]
        omega
      events := hevents _
      last := by rw [hevents, getLast?_retries hgoes]
      timely := timely_rounds _ hgoes hunseen }

/-- Cancellation only cuts a run short. A token that fires before the last call of the run that is never
cancelled is begun ends the run after its round, with the number of calls made; any other leaves the run
as it is. In both cases what was asked for, the log apart, begins the run that is never cancelled. -/
theorem run_cut_short (options : Options) (policy : Policy ε) (script : Script ε α)
    (instant : Instant) :
    let whole := (Suspending.run options policy (script.under .never)).run []
    let run := (Suspending.run options policy (script.under instant)).run []
    ∃ k, EndsFirst options policy script 1 k ∧
      whole.1 = (script k).mapError .operation ∧
      unlogged whole.2 =
        (List.range' 1 (k - 1)).flatMap (retryOf options policy script) ++ [.operate k] ∧
      unlogged run.2 <+: unlogged whole.2 ∧
      ((∃ calls, instant.calls = some calls ∧ calls < k ∧
          CutShort options policy script instant calls run) ∨
        ((∀ calls, instant.calls = some calls → k ≤ calls) ∧ run = whole)) := by
  intro whole run
  obtain ⟨k, hk⟩ : ∃ k, EndsFirst options policy script 1 k :=
    exists_endsFirst (Nat.add_sub_cancel' options.least_le)
  have hwhole := run_whole .never hk fun calls hcalls => by cases hcalls
  have hevents : unlogged whole.2 =
      (List.range' 1 (k - 1)).flatMap (retryOf options policy script) ++ [.operate k] := by
    change unlogged ((Suspending.run options policy (script.under .never)).run []).2 = _
    rw [hwhole, unlogged_through]
  refine ⟨k, hk, congrArg Prod.fst hwhole, hevents, ?_⟩
  by_cases hcut : ∃ calls, instant.calls = some calls ∧ calls < k
  · obtain ⟨calls, hcalls, hlt⟩ := hcut
    have hshort := cutShort_run hk hcalls hlt
    refine ⟨?_, .inl ⟨calls, hcalls, hlt, hshort⟩⟩
    obtain ⟨left, hleft⟩ := Nat.exists_eq_add_of_le (Nat.le_sub_one_of_lt hlt)
    rw [hshort.events, hevents, hleft, ← List.range'_append_1, List.flatMap_append,
      List.append_assoc]
    exact List.prefix_append _ _
  · have hlate : ∀ calls, instant.calls = some calls → k ≤ calls := fun calls hcalls =>
      Nat.le_of_not_lt fun hlt => hcut ⟨calls, hcalls, hlt⟩
    have hsame : run = whole := (run_whole instant hk hlate).trans hwhole.symm
    exact ⟨hsame ▸ List.prefix_refl _, .inr ⟨hlate, hsame⟩⟩

end UnitOfWork.Retry
