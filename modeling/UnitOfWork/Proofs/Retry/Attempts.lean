import UnitOfWork.Proofs.Retry.Answered
import UnitOfWork.Proofs.Retry.Blocking
import UnitOfWork.Proofs.Retry.Transience
import UnitOfWork.Proofs.Scope.Attempts

/-!
# A retried unit of work

Every attempt of a retry carries out a unit of work in a scope of its own. The trace has the requests of
the retry and the calls of all attempts, in the order in which they were made. `Unleaked` is what holds
of it: before an attempt makes its first call, and at the end, whatever earlier attempts began is
settled; an attempt follows another exactly when that failed by a begin or a commit whose source the
classifier calls transient, and attempts are left; and the run succeeds exactly when its last attempt
committed everything.

The run over the joint trace is the run over a script, with the calls of each attempt filled in behind
its number, since its host answers as the script does (`answers_unitsHost`). So the attempts that are
made, and in which order, are those of the rounds of a script, and what each does to its drivers is known
from the unit of work alone.
-/

set_option autoImplicit false

namespace UnitOfWork.Retry

open Scope (Work begun succeeded Settled)

/-! ## The statement -/

/-- What happens in a retried unit of work: a request of the retry, or a call of an attempt. -/
inductive Happening where
  | retry (event : Event TransactionError)
  | call (attempt : Nat) (call : Scope.Call)

namespace Happening

def isOperate : Happening → Bool
  | .retry event => event.isOperate
  | .call .. => false

/-- The call, if it is one of this attempt. -/
def callOf? (attempt : Nat) : Happening → Option Scope.Call
  | .retry _ => none
  | .call other made => if other = attempt then some made else none

end Happening

/-- The calls of an attempt. -/
def callsOf (attempt : Nat) (trace : List Happening) : List Scope.Call :=
  trace.filterMap (Happening.callOf? attempt)

/-- How many attempts were made. -/
def attempts (trace : List Happening) : Nat := trace.countP Happening.isOperate

/-- Runs that write down everything that happens. -/
abbrev Traced := StateM (List Happening)

instance : Log.Spans Traced := ⟨fun _ => pure (), pure ()⟩

/-- Write a request of the retry down. -/
def traced (event : Event TransactionError) : Traced Unit := modify (· ++ [.retry event])

/-- The host of a retry whose attempts, numbered from one as they are made, carry out units of work. -/
def unitsHost (works : Nat → Work) : BlockingHost Traced TransactionError Unit where
  operate _ := do
    let attempt := attempts (← get) + 1
    modify (· ++ .retry (.operate attempt) :: (works attempt).calls.map (.call attempt))
    pure (works attempt).outcome
  observe attempt := traced (.observe attempt)
  report line := traced (.report line)
  sleep delay := traced (.sleep delay)

/-- An attempt was made. -/
def Made (attempt : Nat) (trace : List Happening) : Prop := .retry (.operate attempt) ∈ trace

/-- A failed begin or commit whose source a classifier calls transient. -/
def TransientStep (c : Classifier) (e : TransactionError) : Prop :=
  ∃ source, ((∃ name, e = .begin name source) ∨ ∃ name index, e = .commit name index source) ∧
    c.isTransient source = true

/-- What holds of a retried unit of work. -/
structure Unleaked (retry : ProviderRetry) (works : Nat → Work)
    (result : Except TransactionError Unit × List Happening) : Prop where
  /-- When an attempt makes a call, all that was begun in earlier attempts is settled already. -/
  before : ∀ past attempt call later, result.2 = past ++ .call attempt call :: later →
    ∀ earlier, earlier < attempt → ∀ i, i < begun (callsOf earlier result.2) →
      Settled (callsOf earlier past) i
  atEnd : ∀ attempt i, i < begun (callsOf attempt result.2) → Settled (callsOf attempt result.2) i
  first : Made 1 result.2
  followed : ∀ attempt, Made attempt result.2 → (Made (attempt + 1) result.2 ↔
    attempt < retry.options.maxAttempts ∧
      ∃ e, (works attempt).outcome = .error e ∧ TransientStep retry.classifier e)
  last : ∃ attempt, Made attempt result.2 ∧ ¬ Made (attempt + 1) result.2 ∧
    result.1 = (works attempt).outcome ∧
    (result.1 = .ok () ↔ begun (callsOf attempt result.2) = (works attempt).enlistments.length ∧
      ∀ i, i < begun (callsOf attempt result.2) → i ∈ succeeded (callsOf attempt result.2))

/-! ## The trace of a run -/

section Filled

variable (works : Nat → Work)

/-- A request of the retry with the calls of the attempt behind it. -/
def filled : Event TransactionError → List Happening
  | .operate attempt => .retry (.operate attempt) :: (works attempt).calls.map (.call attempt)
  | event => [.retry event]

/-- The requests of a run with the calls of the attempts filled in. -/
def fill (events : List (Event TransactionError)) : List Happening := events.flatMap (filled works)

/-- A trace is the requests with the calls of the attempts filled in. -/
def InStep (events : List (Event TransactionError)) (trace : List Happening) : Prop :=
  trace = fill works events

/-- What the attempts return, as a script. -/
def outcomes : Script TransactionError Unit := fun attempt => (works attempt).outcome

variable {works}

theorem fill_append (events more : List (Event TransactionError)) :
    fill works (events ++ more) = fill works events ++ fill works more :=
  List.flatMap_append

/-- The calls of an attempt are no attempts themselves. -/
theorem attempts_fill (events : List (Event TransactionError)) :
    attempts (fill works events) = operations events := by
  induction events with
  | nil => rfl
  | cons event rest ih =>
    have hcalls (attempt : Nat) (calls : List Scope.Call) :
        (calls.map (Happening.call attempt)).countP Happening.isOperate = 0 := by
      rw [List.countP_eq_zero]
      intro happening hmem
      obtain ⟨call, -, rfl⟩ := List.mem_map.mp hmem
      exact Bool.false_ne_true
    unfold attempts operations fill at ih ⊢
    rw [List.flatMap_cons, List.countP_append, ih, List.countP_cons]
    cases event with
    | operate attempt =>
      simp only [filled, List.countP_cons, hcalls, Happening.isOperate, Event.isOperate]
      omega
    | _ => simp [filled, Happening.isOperate, Event.isOperate]

/-- A request of the retry is written down as it is. -/
theorem follows_traced (event : Event TransactionError) (h : filled works event = [.retry event])
    {events : List (Event TransactionError)} {trace : List Happening}
    (step : InStep works events trace) :
    Follows .plain (InStep works) (traced event) (noted event) events trace := by
  subst step
  refine ⟨rfl, ?_⟩
  show fill works events ++ [.retry event] = fill works (events ++ [event])
  rw [fill_append, ← h]
  exact congrArg (fill works events ++ ·) (List.append_nil _).symm

/-- The attempts answer with their outcomes, and do their calls behind their numbers. -/
theorem answers_unitsHost :
    BlockingHost.Answers .plain (InStep works) (outcomes works) (unitsHost works) where
  operate {events trace} _ step := by
    subst step
    refine ⟨?_, ?_⟩
    · show (works (attempts (fill works events) + 1)).outcome = (works (operations events + 1)).outcome
      rw [attempts_fill]
    · show fill works events ++ filled works (.operate (attempts (fill works events) + 1)) =
        fill works (events ++ [.operate (operations events + 1)])
      rw [attempts_fill, fill_append]
      exact congrArg (fill works events ++ ·) (List.append_nil _).symm
  observe attempt step := follows_traced (.observe attempt) rfl step
  report line step := follows_traced (.report line) rfl step
  sleep delay step := follows_traced (.sleep delay) rfl step

/-- A retried unit of work is a script of the outcomes of its attempts, with their calls filled in. -/
theorem run_unitsHost (retry : ProviderRetry) :
    (retry.runBlocking (unitsHost works)).run [] =
      ((((retry.runBlocking (outcomes works).host).run [])).1,
        fill works ((retry.runBlocking (outcomes works).host).run []).2) := by
  have follows : Follows .plain (InStep works)
      (Blocking.run retry.options (.ofClassifier retry.classifier) (unitsHost works))
      (Blocking.run retry.options (.ofClassifier retry.classifier) (outcomes works).host) [] [] :=
    answers_unitsHost.run rfl
  exact Prod.ext follows.1 follows.2

end Filled

/-! ## The attempts of a run -/

section Numbers

variable {ε α : Type} {options : Options} {policy : Policy ε} {script : Script ε α}

/-- The number of a call of the operation. -/
def Event.operated? : Event ε → Option Nat
  | .operate call => some call
  | _ => none

/-- The calls of the operation, by their numbers. -/
def numbers (events : List (Event ε)) : List Nat := events.filterMap Event.operated?

theorem numbers_append (events more : List (Event ε)) :
    numbers (events ++ more) = numbers events ++ numbers more := List.filterMap_append

/-- No call of the operation follows the last one. -/
theorem numbers_closing (call : Nat) (slept : Duration) :
    numbers (closing options policy script call slept) = [] := by
  unfold closing
  split <;> split <;> rfl

/-- Rounds that do not end the run call the operation once each. -/
theorem numbers_rounds {first last : Nat}
    (hgoes : ∀ i, first ≤ i → i < last → ¬ Ends options policy script i) :
    numbers (rounds options policy script first last) = List.range' first (last - first) := by
  have hone : ∀ i ∈ List.range' first (last - first),
      numbers (round options policy script i) = [i] := by
    intro i hi
    obtain ⟨hle, hlt⟩ := List.mem_range'_1.mp hi
    obtain ⟨⟨e, houtcome, -⟩, -⟩ := not_ends_iff.mp (hgoes i hle (by omega))
    simp only [round, houtcome]
    rfl
  unfold rounds
  generalize List.range' first (last - first) = calls at hone ⊢
  induction calls with
  | nil => rfl
  | cons i rest ih =>
    obtain ⟨hi, hrest⟩ := List.forall_mem_cons.mp hone
    rw [List.flatMap_cons, numbers_append, hi, ih hrest]
    rfl

/-- A run that ends with a call has made all calls up to that one, each once and in order. -/
theorem numbers_through {k : Nat} (hk : EndsFirst options policy script 1 k) (slept : Duration) :
    numbers (rounds options policy script 1 k ++
      .operate k :: closing options policy script k slept) = List.range' 1 k := by
  have hlast : numbers (.operate k :: closing options policy script k slept) = [k] :=
    congrArg (k :: ·) (numbers_closing k slept)
  obtain ⟨before, rfl⟩ : ∃ before, k = before + 1 := Nat.exists_eq_add_one.mpr hk.first_le
  rw [numbers_append, numbers_rounds hk.before, hlast, Nat.add_sub_cancel, List.range'_concat,
    Nat.one_mul, Nat.add_comm 1 before]

/-- A run goes past a call exactly when that failed transiently and was not the last one allowed. -/
theorem EndsFirst.lt_iff {k call : Nat} (hk : EndsFirst options policy script 1 k) (hfirst : 1 ≤ call)
    (hle : call ≤ k) : call < k ↔
      call < options.maxAttempts ∧ ∃ e, script call = .error e ∧ policy.isTransient e = true := by
  have hmost := hk.le_maxAttempts
  constructor
  · intro hlt
    obtain ⟨hfailed, -⟩ := not_ends_iff.mp (hk.before call hfirst hlt)
    exact ⟨by omega, hfailed⟩
  · rintro ⟨hleft, e, houtcome, htransient⟩
    refine Nat.lt_of_le_of_ne hle ?_
    rintro rfl
    obtain ⟨value, hok⟩ | ⟨other, hfailed, hpermanent⟩ | hlast := hk.ends
    · cases houtcome.symm.trans hok
    · cases houtcome.symm.trans hfailed
      cases htransient.symm.trans hpermanent
    · omega

end Numbers

section Trace

variable {works : Nat → Work} {events : List (Event TransactionError)}

/-- Calls are made by the attempt whose number they stand behind. -/
theorem operated_of_call {attempt : Nat} {call : Scope.Call} {event : Event TransactionError}
    (h : .call attempt call ∈ filled works event) : event.operated? = some attempt := by
  cases event with
  | operate other =>
    rcases List.mem_cons.mp h with h | h
    · cases h
    · obtain ⟨_, -, heq⟩ := List.mem_map.mp h
      cases heq
      rfl
  | _ => cases List.mem_singleton.mp h

/-- An attempt was made in a filled trace exactly when its call was in the trace. -/
theorem made_fill {attempt : Nat} : Made attempt (fill works events) ↔ attempt ∈ numbers events := by
  unfold Made fill numbers
  rw [List.mem_flatMap, List.mem_filterMap]
  refine exists_congr fun event => and_congr_right fun _ => ?_
  cases event with
  | operate other =>
    constructor
    · intro h
      rcases List.mem_cons.mp h with h | h
      · cases h
        rfl
      · obtain ⟨_, -, heq⟩ := List.mem_map.mp h
        cases heq
    · intro h
      cases h
      exact List.mem_cons_self
  | _ =>
    refine iff_of_false ?_ (fun h => by cases h)
    intro h
    cases List.mem_singleton.mp h

theorem callsOf_append (attempt : Nat) (trace more : List Happening) :
    callsOf attempt (trace ++ more) = callsOf attempt trace ++ callsOf attempt more :=
  List.filterMap_append

/-- Nothing is heard of an attempt that was not made. -/
theorem callsOf_fill_of_not_mem {attempt : Nat} (h : attempt ∉ numbers events) :
    callsOf attempt (fill works events) = [] := by
  unfold callsOf
  rw [List.filterMap_eq_nil_iff]
  intro happening hmem
  cases happening with
  | retry event => rfl
  | call other call =>
    obtain ⟨event, hevent, hcall⟩ := List.mem_flatMap.mp hmem
    refine if_neg fun hsame => ?_
    subst hsame
    exact h (List.mem_filterMap.mpr ⟨event, hevent, operated_of_call hcall⟩)

/-- The calls of an attempt are those of its work. -/
theorem callsOf_filled (attempt : Nat) :
    callsOf attempt (filled works (.operate attempt)) = (works attempt).calls := by
  unfold callsOf filled
  rw [List.filterMap_cons_none rfl, List.filterMap_map]
  have hall : Happening.callOf? attempt ∘ Happening.call attempt = some := by
    funext call
    exact if_pos rfl
  rw [hall, List.filterMap_some]

/-- An attempt made once does the calls of its unit of work. -/
theorem callsOf_fill {attempt : Nat} (hnodup : (numbers events).Nodup)
    (h : attempt ∈ numbers events) : callsOf attempt (fill works events) = (works attempt).calls := by
  obtain ⟨event, hevent, hoperated⟩ := List.mem_filterMap.mp h
  obtain ⟨past, later, rfl⟩ := List.append_of_mem hevent
  have hsplit : numbers (past ++ event :: later) = numbers past ++ attempt :: numbers later := by
    rw [numbers_append]
    exact congrArg (numbers past ++ ·) (List.filterMap_cons_some hoperated)
  rw [hsplit, List.nodup_middle, List.nodup_cons, List.mem_append] at hnodup
  have hpast : attempt ∉ numbers past := fun hmem => hnodup.1 (.inl hmem)
  have hlater : attempt ∉ numbers later := fun hmem => hnodup.1 (.inr hmem)
  have hevent : event = .operate attempt := by
    cases event with
    | operate other =>
      cases hoperated
      rfl
    | _ => cases hoperated
  have hfill : fill works (past ++ event :: later) =
      fill works past ++ (filled works event ++ fill works later) := by
    rw [fill_append]
    rfl
  rw [hfill, callsOf_append, callsOf_append, callsOf_fill_of_not_mem hpast,
    callsOf_fill_of_not_mem hlater, hevent, callsOf_filled, List.nil_append, List.append_nil]

/-- Attempts that were made in order make their calls in order. -/
theorem ordered_fill (h : (numbers events).Pairwise (· ≤ ·)) :
    (fill works events).Pairwise fun a b =>
      ∀ i c j d, a = .call i c → b = .call j d → i ≤ j := by
  refine List.pairwise_flatMap.mpr ⟨?_, ?_⟩
  · intro event _
    refine List.pairwise_of_forall_mem_list fun a ha b hb i c j d hac hbd => ?_
    subst hac
    subst hbd
    exact Nat.le_of_eq (Option.some.inj ((operated_of_call ha).symm.trans (operated_of_call hb)))
  · refine (List.pairwise_filterMap.mp h).imp ?_
    intro first second hle a ha b hb i c j d hac hbd
    subst hac
    subst hbd
    exact hle i (operated_of_call ha) j (operated_of_call hb)

/-- When an attempt makes a call, the earlier attempts have made all of theirs. -/
theorem callsOf_past {trace past later : List Happening} {attempt earlier : Nat} {call : Scope.Call}
    (hordered : trace.Pairwise fun a b => ∀ i c j d, a = .call i c → b = .call j d → i ≤ j)
    (htrace : trace = past ++ .call attempt call :: later) (hearlier : earlier < attempt) :
    callsOf earlier past = callsOf earlier trace := by
  subst htrace
  obtain ⟨-, hrest, -⟩ := List.pairwise_append.mp hordered
  obtain ⟨hafter, -⟩ := List.pairwise_cons.mp hrest
  have hnone : callsOf earlier (.call attempt call :: later) = [] := by
    unfold callsOf
    rw [List.filterMap_eq_nil_iff]
    intro happening hmem
    cases happening with
    | retry event => rfl
    | call other made =>
      refine if_neg fun hsame => ?_
      subst hsame
      rcases List.mem_cons.mp hmem with heq | hlater
      · cases heq
        exact Nat.lt_irrefl _ hearlier
      · have := hafter _ hlater attempt call other made rfl rfl
        omega
  rw [callsOf_append, hnone, List.append_nil]

end Trace

/-! ## The main statement -/

/-- An attempt fails by a begin or a commit, so it is judged by its source. -/
theorem transientStep_iff (c : Classifier) (w : Work) {e : TransactionError}
    (h : w.outcome = .error e) : TransientStep c e ↔ c.isTransient e = true := by
  constructor
  · rintro ⟨source, ⟨name, rfl⟩ | ⟨name, index, rfl⟩, htransient⟩
    · exact htransient
    · exact htransient
  · intro htransient
    rcases w.attempted.failure e h with ⟨name, source, rfl⟩ | ⟨name, index, source, rfl⟩
    · exact ⟨source, .inl ⟨name, rfl⟩, htransient⟩
    · exact ⟨source, .inr ⟨name, index, rfl⟩, htransient⟩

/-- What an attempt began is settled once the trace has all its calls. -/
theorem settled_fill {works : Nat → Work} {events : List (Event TransactionError)}
    (hnodup : (numbers events).Nodup) (attempt i : Nat)
    (hi : i < begun (callsOf attempt (fill works events))) :
    Settled (callsOf attempt (fill works events)) i := by
  by_cases h : attempt ∈ numbers events
  · rw [callsOf_fill hnodup h] at hi ⊢
    exact (works attempt).attempted.settled i hi
  · rw [callsOf_fill_of_not_mem h] at hi
    exact absurd hi (Nat.not_lt_zero i)

/-- A retried unit of work leaves no transaction open, whatever the units of its attempts are and
however the drivers answer. -/
theorem retried_units_settled (retry : ProviderRetry) (works : Nat → Work) :
    Unleaked retry works ((retry.runBlocking (unitsHost works)).run []) := by
  obtain ⟨k, hk, hrun⟩ := run_trace retry.options (.ofClassifier retry.classifier) (outcomes works)
  rw [run_unitsHost, run_runBlocking, hrun]
  have hnumbers := numbers_through hk (sleptThrough retry.options 1 k .zero)
  generalize rounds retry.options (.ofClassifier retry.classifier) (outcomes works) 1 k ++
    .operate k :: closing retry.options (.ofClassifier retry.classifier) (outcomes works) k
      (sleptThrough retry.options 1 k .zero) = events at hnumbers ⊢
  have hnodup : (numbers events).Nodup := by
    rw [hnumbers]
    exact List.nodup_range'
  have hordered : (numbers events).Pairwise (· ≤ ·) := by
    rw [hnumbers]
    exact (List.pairwise_lt_range' 1).imp Nat.le_of_lt
  have hmade (attempt : Nat) : Made attempt (fill works events) ↔ 1 ≤ attempt ∧ attempt ≤ k := by
    rw [made_fill, hnumbers, List.mem_range'_1]
    omega
  have hcalls {attempt : Nat} (h : 1 ≤ attempt ∧ attempt ≤ k) :
      callsOf attempt (fill works events) = (works attempt).calls :=
    callsOf_fill hnodup (made_fill.mp ((hmade attempt).mpr h))
  have hfirst := hk.first_le
  exact
    { before := fun past attempt call later htrace earlier hearlier i hi => by
        rw [callsOf_past (ordered_fill hordered) htrace hearlier]
        exact settled_fill hnodup earlier i hi
      atEnd := settled_fill hnodup
      first := (hmade 1).mpr ⟨Nat.le_refl 1, hfirst⟩
      followed := fun attempt hattempt => by
        obtain ⟨hle, hlast⟩ := (hmade attempt).mp hattempt
        have hnext : Made (attempt + 1) (fill works events) ↔ attempt < k := by
          rw [hmade]
          omega
        rw [hnext, hk.lt_iff hle hlast]
        exact and_congr_right fun _ => exists_congr fun e => and_congr_right fun houtcome =>
          (transientStep_iff _ (works attempt) houtcome).symm
      last := by
        refine ⟨k, (hmade k).mpr ⟨hfirst, Nat.le_refl k⟩, ?_, rfl, ?_⟩
        · rw [hmade]
          omega
        · rw [hcalls ⟨hfirst, Nat.le_refl k⟩]
          exact (works k).attempted.ok_iff }

/-- The second of two connections is the victim of a deadlock when the first attempt commits it: it is
rolled back, the first stays committed, and the second attempt commits both. -/
example :
    let deadlock : ParticipantError := .driver (.coded ⟨.sqlServer, .number 1205, "deadlock victim"⟩)
    let unit (answers : Scope.Answers) : Work :=
      { enlistments := [({ name := "orders" }, none), ({ name := "stock" }, none)]
        answers
        apart := by
          intro applicant offered _ place found _ hstored
          cases hstored }
    let works (attempt : Nat) : Work :=
      unit { commit := fun i => if attempt = 1 ∧ i = 1 then .error deadlock else .ok () }
    let run := ((ProviderRetry.of .sqlServer (.standard .none)).runBlocking (unitsHost works)).run []
    attempts run.2 = 2 ∧ Scope.commits (callsOf 1 run.2) = [0, 1] ∧
      Scope.rollbacks (callsOf 1 run.2) = [1] ∧ succeeded (callsOf 2 run.2) = [0, 1] := by
  decide +kernel

end UnitOfWork.Retry
