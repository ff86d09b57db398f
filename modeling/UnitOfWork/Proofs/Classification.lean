import UnitOfWork.Handshake
import UnitOfWork.Provider.Alias
import UnitOfWork.Retry.Suspending
import UnitOfWork.Scope.Error

/-!
# Judgements that agree

The answers about one failure bear on one another: what puts data at risk is reported as loudly as can
be and is not repeated as it stands, and a wait is suggested only where the call may be repeated. All
failures of the library are judged so, those of a handshake included (`Classification.Coherent`).

Next to that, refusals, look-ups and units of work are judged lasting: none of their failures goes away by
repeating the call, and another attempt is made for the sake of a driver's code only. A busy participant of
a handshake is the one failure that says otherwise (`HandshakeError.retryable_iff`).

A failure may stand for a refusal, behind any number of retries. It is judged as the refusal itself
(`StandsFor.classify_eq`), by induction on the layers between.
-/

set_option autoImplicit false

namespace UnitOfWork

/-! ## The statement -/

/-- Answers that do not contradict one another. -/
structure Classification.Coherent (c : Classification) : Prop where
  /-- Data at risk is reported as loudly as can be. -/
  loud : c.critical = true → c.severity = .critical
  /-- What put data at risk is not done again. -/
  once : c.critical = true → c.retryable = false
  /-- A wait makes sense before a call that may succeed. -/
  waits : c.retryAfter ≠ none → c.retryable = true

/-- The answers about a failure that stays however often the call is repeated. -/
structure Classification.Lasting (c : Classification) : Prop where
  retryable : c.retryable = false
  retryAfter : c.retryAfter = none

/-- The failures that are a refusal in the guise of another layer. -/
inductive StandsFor (refusal : Refusal) : (ε : Type) → [Classified ε] → ε → Prop where
  | itself : StandsFor refusal Refusal refusal
  | lookup : StandsFor refusal LookupError (.refused refusal)
  | transaction : StandsFor refusal TransactionError (.refused refusal)
  | handshake : StandsFor refusal HandshakeError (.refused refusal)
  | retried {ε : Type} [Classified ε] {e : ε} (inner : StandsFor refusal ε e) :
      StandsFor refusal (Retry.Failure ε) (.operation e)

/-! ## Each kind of failure -/

namespace Classification

/-- The answers about what stays contradict one another only where data at risk is reported too low. -/
theorem Lasting.coherent {c : Classification} (h : c.Lasting)
    (loud : c.critical = true → c.severity = .critical) : c.Coherent :=
  ⟨loud, fun _ => h.retryable, fun hwait => absurd h.retryAfter hwait⟩

theorem lasting_plain : plain.Lasting := ⟨rfl, rfl⟩

theorem coherent_plain : plain.Coherent := lasting_plain.coherent nofun

end Classification

/-- No refusal goes away by repeating the call. -/
theorem Refusal.lasting (refusal : Refusal) : (classify refusal).Lasting := by
  cases refusal <;> exact ⟨rfl, rfl⟩

/-- A refusal puts data at risk exactly when it is a broken invariant. -/
theorem Refusal.critical_iff (refusal : Refusal) :
    (classify refusal).critical = true ↔ ∃ message, refusal = .internal message := by
  cases refusal with
  | internal message => exact ⟨fun _ => ⟨message, rfl⟩, fun _ => rfl⟩
  | _ => exact ⟨nofun, nofun⟩

/-- Refusals are judged without contradiction. -/
theorem Refusal.coherent (refusal : Refusal) : (classify refusal).Coherent := by
  apply refusal.lasting.coherent
  rw [refusal.critical_iff]
  rintro ⟨message, rfl⟩
  rfl

/-- A name that leads nowhere will not lead anywhere the next time. -/
theorem LookupError.lasting (e : LookupError) : (classify e).Lasting := by
  cases e with
  | refused refusal => exact refusal.lasting
  | _ => exact Classification.lasting_plain

/-- So are failed look-ups. -/
theorem LookupError.coherent (e : LookupError) : (classify e).Coherent := by
  cases e with
  | refused refusal => exact refusal.coherent
  | _ => exact Classification.coherent_plain

/-- No failure of a unit of work goes away by repeating the call; a retry goes by the driver's code. -/
theorem TransactionError.lasting (e : TransactionError) : (classify e).Lasting := by
  cases e with
  | refused refusal => exact refusal.lasting
  | _ => exact ⟨rfl, rfl⟩

/-- A unit of work puts data at risk by a commit that failed, or by a broken invariant. -/
theorem TransactionError.critical_iff (e : TransactionError) :
    (classify e).critical = true ↔
      (∃ name index source, e = .commit name index source) ∨
        ∃ message, e = .refused (.internal message) := by
  cases e with
  | commit name index source => exact ⟨fun _ => .inl ⟨name, index, source, rfl⟩, fun _ => rfl⟩
  | refused refusal =>
    have hrefusal := refusal.critical_iff
    constructor
    · intro h
      obtain ⟨message, rfl⟩ := hrefusal.mp h
      exact .inr ⟨message, rfl⟩
    · rintro (⟨_, _, _, h⟩ | ⟨message, h⟩)
      · cases h
      · cases h
        rfl
  | _ => exact ⟨nofun, nofun⟩

/-- So are the failures of a unit of work, where a failed commit is as loud as can be. -/
theorem TransactionError.coherent (e : TransactionError) : (classify e).Coherent := by
  apply e.lasting.coherent
  rw [e.critical_iff]
  rintro (⟨_, _, _, rfl⟩ | ⟨_, rfl⟩) <;> rfl

/-- A handshake is worth another try exactly when the participant was busy. -/
theorem HandshakeError.retryable_iff (e : HandshakeError) :
    (classify e).retryable = true ↔ ∃ participant wait, e = .busy participant wait := by
  cases e with
  | busy participant wait => exact ⟨fun _ => ⟨participant, wait, rfl⟩, fun _ => rfl⟩
  | refused refusal =>
    refine ⟨fun h => ?_, nofun⟩
    cases refusal.lasting.retryable.symm.trans h
  | _ => exact ⟨nofun, nofun⟩

/-- A handshake suggests a wait exactly when the participant was busy, and the wait it was told. -/
theorem HandshakeError.retryAfter_iff (e : HandshakeError) (wait : Duration) :
    (classify e).retryAfter = some wait ↔ ∃ participant, e = .busy participant wait := by
  cases e with
  | busy participant given =>
    constructor
    · intro h
      cases h
      exact ⟨participant, rfl⟩
    · rintro ⟨_, h⟩
      cases h
      rfl
  | refused refusal =>
    refine ⟨fun h => ?_, nofun⟩
    cases refusal.lasting.retryAfter.symm.trans h
  | _ => exact ⟨nofun, nofun⟩

/-- So are the failures of a handshake, of which each kind has answers of its own. -/
theorem HandshakeError.coherent (e : HandshakeError) : (classify e).Coherent := by
  cases e with
  | refusedToBegin participant => exact Classification.coherent_plain
  | indeterminate participant => exact Classification.Lasting.coherent ⟨rfl, rfl⟩ fun _ => rfl
  | busy participant wait => exact ⟨nofun, nofun, fun _ => rfl⟩
  | refused refusal => exact refusal.coherent

/-- A retry adds a cancellation to the failures of its operation, and nothing that contradicts itself. -/
theorem Retry.Failure.coherent {ε : Type} [Classified ε] (h : ∀ e : ε, (classify e).Coherent)
    (failure : Failure ε) : (classify failure).Coherent := by
  cases failure with
  | cancelled attempts => exact Classification.Lasting.coherent ⟨rfl, rfl⟩ nofun
  | operation error => exact h error

/-! ## Refusals in other guises -/

/-- What stands for a refusal is judged as the refusal itself. -/
theorem StandsFor.classify_eq {refusal : Refusal} {ε : Type} [Classified ε] {e : ε}
    (h : StandsFor refusal ε e) : classify e = classify refusal := by
  induction h with
  | retried inner ih => exact ih
  | _ => rfl

end UnitOfWork
