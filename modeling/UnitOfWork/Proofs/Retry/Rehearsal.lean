import UnitOfWork.Proofs.Retry.Answered
import UnitOfWork.Proofs.Retry.Delays
import UnitOfWork.Retry.Provider
import UnitOfWork.Retry.Rehearsal

/-!
# What a bench keeps of a run

A rehearsal runs a retry on a bench, over an operation that belongs to the monad below. Where the answers
below are those of a script, the rehearsed run is the run over the script, under a token that fires at the
instant that the rehearsal chose; so the laws of retries speak of rehearsed runs. The bench keeps the
calls, the attempts told to the observer and the delays requested, as many and in the order in which they
were made (`rehearsed_run`).

A token due at a tick of the clock fires inside some wait, and which one that is depends on the delays of
the run. `Rehearsal.instant?` names no instant there, and nothing is said of it.
-/

set_option autoImplicit false

namespace UnitOfWork.Retry

variable {n : Type → Type} [Monad n] {σ ε α : Type}

/-! ## Instants of a rehearsal -/

/-- The instant inside a numbered request. Requests are numbered from one. -/
def Instant.inside (kind : Event.Kind) : Nat → Instant
  | 0 => .never
  | k + 1 => .during kind (k + 1)

namespace Rehearsal

/-- When the token of the bench fires. A blocking run has none. -/
def token (r : Rehearsal) : Firing := if r.suspending then r.firing else .never

/-- The instant at which the token fires, by the requests of the run. -/
def instant? (r : Rehearsal) : Option Instant :=
  match r.token with
  | .never => some .never
  | .beforeRun => some .beforeRun
  | .duringAttempt k => some (.inside .operate k)
  | .duringObserver k => some (if r.observed then .inside .observe k else .never)
  | .duringDelayRequest k =>
      some (if r.sleeper.records && !r.sleeper.waits then .inside .sleep k else .never)
  | .atTick _ => if r.sleeper.waits then none else some .never

end Rehearsal

/-- The observer is told as often as it is called. -/
theorem length_told (events : List (Event ε)) : (told events).length = requests .observe events := by
  rw [told, requests, List.length_filterMap_eq_countP]
  congr 1
  funext event
  cases event <;> rfl

/-- Delays are asked for as often as the sleeper is called. -/
theorem length_asked (events : List (Event ε)) : (asked events).length = requests .sleep events := by
  rw [asked, requests, List.length_filterMap_eq_countP]
  congr 1
  funext event
  cases event <;> rfl

theorem told_concat (events : List (Event ε)) (event : Event ε) :
    told (events ++ [event]) = told events ++ event.attempt?.toList := by
  rw [told_append]
  cases event <;> rfl

theorem asked_concat (events : List (Event ε)) (event : Event ε) :
    asked (events ++ [event]) = asked events ++ event.delay?.toList := by
  rw [asked_append]
  cases event <;> rfl

/-- A token inside a request has fired once that request is made. -/
theorem Instant.seen_inside_concat (kind : Event.Kind) (k : Nat) (events : List (Event ε))
    (event : Event ε) : (Instant.inside kind k).seen (events ++ [event]) =
      ((Instant.inside kind k).seen events ||
        (event.kind == kind && k == requests kind events + 1)) := by
  cases k with
  | zero => simp [inside, seen]
  | succ k =>
    have hone : requests kind [event] = if event.kind == kind then 1 else 0 := by
      simp [requests, List.countP_singleton]
    simp only [inside, seen, requests_append, hone]
    cases event.kind == kind with
    | false => simp
    | true =>
      rw [Bool.eq_iff_iff, if_pos rfl, Bool.true_and, Bool.or_eq_true, decide_eq_true_eq,
        decide_eq_true_eq, beq_iff_eq]
      omega

/-- No request has been made yet. -/
theorem Instant.seen_inside_nil (kind : Event.Kind) (k : Nat) :
    (Instant.inside kind k).seen ([] : List (Event ε)) = false := by
  cases k <;> rfl

theorem Instant.interrupts_inside (kind : Event.Kind) (k : Nat) (events : List (Event ε)) :
    (Instant.inside kind k).interrupts events = (Instant.inside kind k).seen events := by
  cases k <;> rfl

namespace Rehearsal

variable {r : Rehearsal} {instant : Instant}

/-- Whether the token fires inside the request that follows others. -/
def firesIn (r : Rehearsal) (events : List (Event ε)) : Event ε → Bool
  | .operate _ => r.token == .duringAttempt (operations events + 1)
  | .observe _ => r.observed && r.token == .duringObserver (requests .observe events + 1)
  | .sleep _ => r.sleeper.records && !r.sleeper.waits &&
      r.token == .duringDelayRequest (requests .sleep events + 1)
  | .report _ => false

/-- The token has fired after a request if it had fired before it or fires inside it. -/
theorem seen_concat (h : r.instant? = some instant) (events : List (Event ε)) (event : Event ε) :
    instant.seen (events ++ [event]) = (instant.seen events || r.firesIn events event) := by
  unfold instant? at h
  unfold firesIn
  cases htoken : r.token with
  | never =>
    simp only [htoken, Option.some.injEq] at h
    subst h
    cases event <;> simp [Instant.seen]
  | beforeRun =>
    simp only [htoken, Option.some.injEq] at h
    subst h
    cases event <;> simp [Instant.seen]
  | duringAttempt k =>
    simp only [htoken, Option.some.injEq] at h
    subst h
    rw [Instant.seen_inside_concat]
    cases event <;> simp [Event.kind, requests_operate, beq_eq_decide]
  | duringObserver k =>
    simp only [htoken, Option.some.injEq] at h
    subst h
    cases r.observed with
    | false => cases event <;> simp [Instant.seen]
    | true =>
      rw [if_pos rfl, Instant.seen_inside_concat]
      cases event <;> simp [Event.kind, beq_eq_decide]
  | duringDelayRequest k =>
    simp only [htoken, Option.some.injEq] at h
    subst h
    cases r.sleeper.records && !r.sleeper.waits with
    | false => cases event <;> simp [Instant.seen]
    | true =>
      rw [if_pos rfl, Instant.seen_inside_concat]
      cases event <;> simp [Event.kind, beq_eq_decide]
  | atTick k =>
    simp only [htoken] at h
    split at h
    · cases h
    · cases h
      cases event <;> simp [Instant.seen]

/-- No token fires at the end of a wait. -/
theorem interrupts_eq (h : r.instant? = some instant) (events : List (Event ε)) :
    instant.interrupts events = instant.seen events := by
  unfold instant? at h
  split at h
  case h_6 => split at h <;> cases h; rfl
  all_goals cases h
  case h_3 => exact Instant.interrupts_inside ..
  case h_4 => split; exacts [Instant.interrupts_inside .., rfl]
  case h_5 => split; exacts [Instant.interrupts_inside .., rfl]
  all_goals rfl

/-- Before the run the token has fired only if it fires then. -/
theorem seen_nil (h : r.instant? = some instant) :
    instant.seen ([] : List (Event ε)) = (r.token == .beforeRun) := by
  unfold instant? at h
  split at h
  case h_6 htoken => rw [htoken]; split at h <;> cases h; rfl
  all_goals rename_i htoken; rw [htoken]; cases h
  case h_3 => exact Instant.seen_inside_nil ..
  case h_4 => split; exacts [Instant.seen_inside_nil .., rfl]
  case h_5 => split; exacts [Instant.seen_inside_nil .., rfl]
  all_goals rfl

/-- A token due at a tick is looked at by no wait. -/
theorem token_ne_atTick (h : r.instant? = some instant) (waits : r.sleeper.waits = true) (k : Nat) :
    r.token ≠ .atTick k := fun htoken => by
  simp [instant?, htoken, waits] at h

end Rehearsal

/-! ## The bench -/

/-- Delays have a total exactly when a span has as many nanoseconds as they have together. -/
theorem Recorded.total?_eq_some_iff (recorded : Recorded) (total : Duration) :
    recorded.total? = some total ↔ total.nanos = (recorded.delays.map Duration.nanos).sum := by
  have hsum : recorded.delays.foldr (fun delay total => delay.nanos + total) 0 =
      (recorded.delays.map Duration.nanos).sum := by
    rw [List.sum_eq_foldr, List.foldr_map]
  simp only [total?, Duration.sum?, hsum]
  split
  · constructor
    · intro h
      cases h
      rfl
    · intro h
      exact congrArg some (Duration.eq_of_nanos h.symm)
  · next hlimit =>
    refine ⟨nofun, fun h => absurd total.nanos_le ?_⟩
    rwa [h]

/-- What a bench keeps of the requests of a rehearsed run. -/
structure Bench.Kept (r : Rehearsal) (instant : Instant) (events : List (Event ε)) (b : Bench ε) :
    Prop where
  sleeper : b.sleeper = r.sleeper
  firing : b.firing = r.token
  fired : b.fired = instant.seen events
  calls : b.calls = operations events
  observed : b.observed = if r.observed then told events else []
  requested : b.requested.delays = if r.sleeper.records then asked events else []

namespace Bench.Kept

variable {r : Rehearsal} {instant : Instant} {events : List (Event ε)} {b : Bench ε}

/-- A bench before its run. -/
theorem ready (h : r.instant? = some instant) :
    Kept r instant [] (.ready r.sleeper r.token : Bench ε) where
  sleeper := rfl
  firing := rfl
  fired := (Rehearsal.seen_nil h).symm
  calls := rfl
  observed := by split <;> rfl
  requested := by split <;> rfl

/-- Whether the bench fires the token at a moment of a request. -/
theorem fireAt (h : r.instant? = some instant) (kept : Kept r instant events b) {event : Event ε}
    {moment : Firing} (fires : r.firesIn events event = (r.token == moment)) :
    (b.fired || b.firing == moment) = instant.seen (events ++ [event]) := by
  rw [Rehearsal.seen_concat h, fires, kept.fired, kept.firing]

/-- A bench that a request leaves alone. -/
theorem idle (h : r.instant? = some instant) (kept : Kept r instant events b) {event : Event ε}
    (fires : r.firesIn events event = false) (operate : event.isOperate = false)
    (observe : r.observed = true → event.attempt? = none)
    (sleep : r.sleeper.records = true → event.delay? = none) :
    Kept r instant (events ++ [event]) b where
  sleeper := kept.sleeper
  firing := kept.firing
  fired := by rw [Rehearsal.seen_concat h, fires, Bool.or_false, kept.fired]
  calls := by rw [operations_concat events operate, kept.calls]
  observed := by
    rw [kept.observed, told_concat]
    split
    · rw [observe ‹_›, Option.toList_none, List.append_nil]
    · rfl
  requested := by
    rw [kept.requested, asked_concat]
    split
    · rw [sleep ‹_›, Option.toList_none, List.append_nil]
    · rfl

/-- A bench counts the calls of the operation. -/
theorem call (h : r.instant? = some instant) (kept : Kept r instant events b) :
    Kept r instant (events ++ [.operate (operations events + 1)]) b.call where
  sleeper := kept.sleeper
  firing := kept.firing
  fired := kept.fireAt h (by rw [kept.calls]; rfl)
  calls := (congrArg (· + 1) kept.calls).trans (operations_append events [.operate _]).symm
  observed := kept.observed.trans (by simp [told_concat, Event.attempt?])
  requested := kept.requested.trans (by simp [asked_concat, Event.delay?])

/-- An observer that listens hears of an attempt. -/
theorem observe (h : r.instant? = some instant) (kept : Kept r instant events b)
    (listens : r.observed = true) (attempt : Attempt ε) :
    Kept r instant (events ++ [.observe attempt]) (b.observe attempt) where
  sleeper := kept.sleeper
  firing := kept.firing
  fired := kept.fireAt h (by
    rw [Rehearsal.firesIn, listens, Bool.true_and, kept.observed, listens, if_pos rfl, length_told])
  calls := kept.calls.trans (operations_concat events rfl).symm
  observed := by
    rw [told_concat, listens, if_pos rfl]
    exact congrArg (· ++ [attempt]) (kept.observed.trans (if_pos listens))
  requested := kept.requested.trans (by simp [asked_concat, Event.delay?])

/-- A sleeper that records keeps the delay that it is asked for. -/
theorem request (h : r.instant? = some instant) (kept : Kept r instant events b)
    (delay : Duration) : Kept r instant (events ++ [.sleep delay]) (b.request delay) := by
  unfold Bench.request
  rw [kept.sleeper]
  cases records : r.sleeper.records with
  | false =>
    exact kept.idle h (by simp [Rehearsal.firesIn, records]) rfl (fun _ => rfl) (by simp [records])
  | true =>
    have count : b.requested.count = requests .sleep events := by
      rw [Recorded.count, kept.requested, if_pos records, length_asked]
    have requested : (b.requested.record delay).delays =
        if r.sleeper.records then asked (events ++ [.sleep delay]) else [] := by
      rw [if_pos records, asked_concat]
      exact congrArg (· ++ [delay]) (kept.requested.trans (if_pos records))
    have calls : b.calls = operations (events ++ [.sleep delay]) :=
      kept.calls.trans (operations_concat events rfl).symm
    have observed : b.observed = if r.observed then told (events ++ [.sleep delay]) else [] :=
      kept.observed.trans (by simp [told_concat, Event.attempt?])
    cases waits : r.sleeper.waits with
    | true =>
      have fired : b.fired = instant.seen (events ++ [.sleep delay]) := by
        simp [Rehearsal.seen_concat h, Rehearsal.firesIn, waits, kept.fired]
      exact ⟨rfl, kept.firing, fired, calls, observed, requested⟩
    | false =>
      have fired : (b.fired || b.firing == .duringDelayRequest (b.requested.count + 1)) =
          instant.seen (events ++ [.sleep delay]) :=
        kept.fireAt h (by simp [Rehearsal.firesIn, records, waits, count])
      exact ⟨rfl, kept.firing, fired, calls, observed, requested⟩

/-- A wait that no token ends only moves the clock. -/
theorem waitUntil (h : r.instant? = some instant) (kept : Kept r instant events b)
    (waits : r.sleeper.waits = true) (tick : Nat) :
    b.waitUntil tick = (.elapsed, { b with clock := tick }) := by
  unfold Bench.waitUntil
  split
  case h_1 due hfiring =>
    exact absurd (kept.firing.symm.trans hfiring) (Rehearsal.token_ne_atTick h waits due)
  case h_2 => rfl

/-- A sleeper that records totals what the run has asked for. -/
theorem total?_eq_some_iff (kept : Kept r instant events b) (records : r.sleeper.records = true)
    (total : Duration) : b.requested.total? = some total ↔
      total.nanos = ((asked events).map Duration.nanos).sum := by
  rw [Recorded.total?_eq_some_iff, kept.requested, if_pos records]

/-- A wait is interrupted if the token has fired once the delay has been asked for. -/
theorem pause (h : r.instant? = some instant) (kept : Kept r instant events b)
    (delay : Duration) :
    (b.pause delay).1 =
        (if instant.interrupts (events ++ [.sleep delay]) then .interrupted else .elapsed) ∧
      Kept r instant (events ++ [.sleep delay]) (b.pause delay).2 := by
  have asked := kept.request h delay
  rw [Rehearsal.interrupts_eq h, ← asked.fired]
  unfold Bench.pause
  generalize b.request delay = b at asked ⊢
  by_cases fired : b.fired = true
  · simp only [fired, if_true]
    exact ⟨trivial, asked⟩
  · simp only [fired]
    by_cases waits : (b.sleeper.waits && 0 < delay.nanos) = true
    · rw [if_pos waits, asked.waitUntil h (asked.sleeper ▸ (Bool.and_eq_true_iff.mp waits).1)]
      exact ⟨rfl, asked.sleeper, asked.firing, asked.fired, asked.calls, asked.observed,
        asked.requested⟩
    · rw [if_neg waits]
      exact ⟨rfl, asked⟩

end Bench.Kept

/-! ## Hosts on a bench -/

section Below

variable (L : Logic n σ) (R : List (Event ε) → σ → Prop) (r : Rehearsal) (script : Script ε α)
  (operation : Nat → n (Except ε α)) (onRetry : Nat → n Unit) (log : Log.Entry → n Unit)
  (text : ε → String)

/-- What the monad below a bench answers as a script does, its state in step with the requests. The
bench says which retry it is that the observer is told of. -/
structure Bench.Below : Prop where
  operate : ∀ {events : List (Event ε)} {s : σ}, Announced events → R events s →
    L.Ensures (operation (operations events + 1)) s fun outcome s' =>
      outcome = script (operations events + 1) ∧ R (events ++ [.operate (operations events + 1)]) s'
  observe : ∀ {events : List (Event ε)} {s : σ} (attempt : Attempt ε), R events s →
    if r.observed then
      L.Ensures (onRetry (requests .observe events + 1)) s fun _ s' =>
        R (events ++ [.observe attempt]) s'
    else R (events ++ [.observe attempt]) s
  report : ∀ {events : List (Event ε)} {s : σ} (line : Report ε), R events s →
    L.Ensures (log (line.entry text)) s fun _ s' => R (events ++ [.report line]) s'
  sleep : ∀ {events : List (Event ε)} {s : σ} (delay : Duration), R events s →
    R (events ++ [.sleep delay]) s

end Below

section Hosts

variable {L : Logic n σ} {R : List (Event ε) → σ → Prop} {r : Rehearsal} {instant : Instant}
  {script : Script ε α} {operation : Nat → n (Except ε α)} {onRetry : Nat → n Unit}
  {log : Log.Entry → n Unit} {text : ε → String} (h : r.instant? = some instant)
  (below : Bench.Below L R r script operation onRetry log text)

include h below

/-- The calls on a bench answer as the monad below does. -/
theorem Bench.Below.calls :
    Calls.Answers L.above (fun events s => Bench.Kept r instant events s.1 ∧ R events s.2) script
      (r.heard (Bench.hostCalls operation onRetry log text)) where
  operate := by
    rintro events ⟨b, s⟩ announced ⟨kept, hr⟩
    have hheard : (r.heard (Bench.hostCalls operation onRetry log text)).operate =
        (Bench.hostCalls operation onRetry log text).operate := by
      unfold Rehearsal.heard
      split <;> rfl
    rw [hheard]
    refine L.above.bind (Logic.above_modify ?_)
    exact Logic.above_lift (L.mono (below.operate announced hr) fun _ _ ⟨houtcome, hr⟩ =>
      ⟨houtcome, kept.call h, hr⟩)
  observe := by
    rintro events ⟨b, s⟩ attempt ⟨kept, hr⟩
    have hbelow := below.observe attempt hr
    unfold Rehearsal.heard
    cases listens : r.observed with
    | false =>
      rw [listens] at hbelow
      exact L.above.pure ⟨rfl, kept.idle h (by simp [Rehearsal.firesIn, listens]) rfl
        (by simp [listens]) (fun _ => rfl), hbelow⟩
    | true =>
      rw [listens] at hbelow
      have count : (b.observe attempt).observed.length = requests .observe events + 1 := by
        rw [← length_told, ← (kept.observed.trans (if_pos listens))]
        exact List.length_append
      refine L.above.bind (Logic.above_modify (L.above.bind (Logic.above_get ?_)))
      rw [count]
      exact Logic.above_lift (L.mono hbelow fun _ _ hr => ⟨rfl, kept.observe h listens attempt, hr⟩)
  report := by
    rintro events ⟨b, s⟩ line ⟨kept, hr⟩
    have hheard : (r.heard (Bench.hostCalls operation onRetry log text)).report =
        (Bench.hostCalls operation onRetry log text).report := by
      unfold Rehearsal.heard
      split <;> rfl
    rw [hheard]
    exact Logic.above_lift (L.mono (below.report line hr) fun _ _ hr =>
      ⟨rfl, kept.idle h rfl rfl (fun _ => rfl) (fun _ => rfl), hr⟩)

/-- The host of a blocking run on a bench answers as the monad below does. -/
theorem Bench.Below.blocking : BlockingHost.Answers L.above
    (fun events s => Bench.Kept r instant events s.1 ∧ R events s.2) script
    { Bench.blockingHost operation onRetry log text with
      toCalls := r.heard (Bench.hostCalls operation onRetry log text) } where
  toAnswers := below.calls h
  sleep := by
    rintro events ⟨b, s⟩ delay ⟨kept, hr⟩
    exact Logic.above_modify ⟨rfl, kept.request h delay, below.sleep delay hr⟩

/-- So does the host of a suspending run. -/
theorem Bench.Below.suspending : SuspendingHost.Answers L.above
    (fun events s => Bench.Kept r instant events s.1 ∧ R events s.2) script instant
    { Bench.suspendingHost operation onRetry log text with
      toCalls := r.heard (Bench.hostCalls operation onRetry log text) } where
  toAnswers := below.calls h
  isCancelled := by
    rintro events ⟨b, s⟩ ⟨kept, hr⟩
    exact L.above.bind (Logic.above_get (L.above.pure ⟨kept.fired, kept, hr⟩))
  pause := by
    rintro events ⟨b, s⟩ delay ⟨kept, hr⟩
    obtain ⟨hpause, after⟩ := kept.pause h delay
    exact Logic.above_modifyGet ⟨hpause, after, below.sleep delay hr⟩

end Hosts

/-! ## Rehearsals -/

section Rehearsed

variable {L : Logic n σ} {R : List (Event ε) → σ → Prop} {r : Rehearsal} {instant : Instant}
  {script : Script ε α} {operation : Nat → n (Except ε α)} {log : Log.Entry → n Unit}
  {text : ε → String} {options : Options} {s : σ} (h : r.instant? = some instant)
  (below : Bench.Below L R r script operation (fun _ => pure ()) log text) (start : R [] s)

include h below start

/-- A rehearsal of runs that come to all that the loops come to. -/
theorem Bench.Below.rehearsed {policy : Policy ε}
    {blocking : BlockingHost (StateT (Bench ε) n) ε α → StateT (Bench ε) n (Except ε α)}
    {suspending : SuspendingHost (StateT (Bench ε) n) ε α →
      StateT (Bench ε) n (Except (Failure ε) α)}
    (hblocking : ∀ {host s Q}, L.above.Ensures (Blocking.run options policy host) s Q →
      L.above.Ensures (blocking host) s Q)
    (hsuspending : ∀ {host s Q}, L.above.Ensures (Suspending.run options policy host) s Q →
      L.above.Ensures (suspending host) s Q) :
    L.Ensures (r.run operation log text blocking suspending) s fun rehearsed s' =>
      let run := (Suspending.run options policy (script.under instant)).run []
      rehearsed.result = run.1 ∧ Bench.Kept r instant run.2 rehearsed.bench ∧ R run.2 s' := by
  have ready := Bench.Kept.ready (ε := ε) h
  unfold Rehearsal.run
  split
  case isTrue hdiscipline =>
    have htoken : r.token = r.firing := if_pos hdiscipline
    rw [htoken] at ready
    have hrun : L.above.Ensures (Suspending.run options policy _)
        (Bench.ready r.sleeper r.firing, s) _ :=
      (below.suspending h).run ⟨ready, start⟩
    refine L.bind (L.mono (hsuspending hrun) ?_)
    rintro ⟨result, bench⟩ s' ⟨hresult, kept, hr⟩
    exact L.pure ⟨hresult, kept, hr⟩
  case isFalse hdiscipline =>
    have htoken : r.token = .never := if_neg hdiscipline
    have hinstant : Instant.never = instant :=
      Option.some.inj (by rw [← h, Rehearsal.instant?, htoken])
    subst hinstant
    rw [htoken] at ready
    rw [run_under_never]
    have hrun : L.above.Ensures (Blocking.run options policy _)
        (Bench.ready r.sleeper .never, s) _ :=
      (below.blocking h).run ⟨ready, start⟩
    refine L.bind (L.mono (hblocking hrun) ?_)
    rintro ⟨result, bench⟩ s' ⟨hresult, kept, hr⟩
    exact L.pure ⟨congrArg (Except.mapError Failure.operation) hresult, kept, hr⟩

/-- A rehearsed run is the run over what the operation below answers, under the token of the rehearsal,
and the bench keeps what was asked for. -/
theorem rehearsed_run (policy : Policy ε) :
    L.Ensures (r.run operation log text (Blocking.run options policy) (Suspending.run options policy)) s
      fun rehearsed s' =>
        let run := (Suspending.run options policy (script.under instant)).run []
        rehearsed.result = run.1 ∧ Bench.Kept r instant run.2 rehearsed.bench ∧ R run.2 s' :=
  below.rehearsed h start id id

/-- So is a rehearsed run against a provider, by the provider's allow list. -/
theorem rehearsed_provider_run [Log.Spans n] [Faulty ε] (spans : L.Spanned) (retry : ProviderRetry) :
    L.Ensures (r.run operation log text retry.runBlocking retry.runSuspending) s
      fun rehearsed s' =>
        let run := (Suspending.run retry.options (.ofClassifier retry.classifier)
          (script.under instant)).run []
        rehearsed.result = run.1 ∧ Bench.Kept r instant run.2 rehearsed.bench ∧ R run.2 s' :=
  below.rehearsed h start spans.above.within spans.above.within

end Rehearsed

/-- An operation that only answers is all that a rehearsed run needs: the result and what the bench keeps
do not depend on the log. -/
theorem rehearsed_script {r : Rehearsal} {instant : Instant} (h : r.instant? = some instant)
    (script : Script ε α) (text : ε → String) (options : Options) (policy : Policy ε) (log : Log) :
    let run := (Suspending.run options policy (script.under instant)).run []
    let rehearsed := ((r.run (fun call => pure (script call)) Log.record text
      (Blocking.run options policy) (Suspending.run options policy) : LogM _).run log).1
    rehearsed.result = run.1 ∧ Bench.Kept r instant run.2 rehearsed.bench := by
  have below : Bench.Below Logic.unstated (fun _ _ => True) r script
      (fun call => pure (script call)) (fun _ => pure ()) Log.record text :=
    { operate := fun _ _ _ => ⟨rfl, trivial⟩
      observe := fun _ _ => by split; exacts [fun _ => trivial, trivial]
      report := fun _ _ _ => trivial
      sleep := fun _ _ => trivial }
  obtain ⟨hresult, kept, -⟩ := rehearsed_run (s := ()) h below trivial policy log
  exact ⟨hresult, kept⟩

end UnitOfWork.Retry
