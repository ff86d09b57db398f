import UnitOfWork.Proofs.Retry.Blocking
import UnitOfWork.Proofs.Text.Letters
import UnitOfWork.Retry.Provider
import UnitOfWork.Scope.Error

/-!
# Which failures are retried

A driver's fault has an engine and a code, and whatever presents it is judged by these two: the fault
itself, the fault behind any number of pointers, a participant that fails by it, and the failed begin,
enlistment or commit of that participant. `Raised` and `Listed` say when a fault is worth another
attempt without a word of the classifier's code: its engine is the one the list is for, and its code is
on the list. Everything else is permanent, for every classifier.

`isTransient_iff` settles the first kind by induction on the way a failure presents a fault, and
`isTransient_of_codeless` the second; every failure of a unit of work is of one kind or the other. What a
retry makes of a failure that comes back on every call is read off the run of a script.
-/

set_option autoImplicit false

namespace UnitOfWork

/-! ## The statement -/

/-- The engine that raised a fault and the code it gave. SQLite gives an extended code of 32 bits, whose
low byte counts; PostgreSQL gives a SQLSTATE; either may give none. -/
inductive Driver.Raised : Driver.Fault → Provider → Driver.Code → Prop where
  | coded (error : Driver.Error) : Raised (.coded error) error.provider error.code
  | sqlite (extended : Int) (message : String) :
      Raised (.sqlite (some extended) message) .sqlite
        (.number ((BitVec.ofInt 32 extended).setWidth 8).toNat)
  | postgres (state message : String) :
      Raised (.postgres (some state) message) .postgreSql (.state state)

/-- A code on an allow list; SQLSTATEs count whatever the case of their letters. -/
inductive Classifier.Listed (c : Classifier) : Driver.Code → Prop where
  | number {n : Int} (listed : n ∈ c.numbers) : Listed c (.number n)
  | state {known given : String} (listed : known ∈ c.states)
      (same : List.Forall₂ Text.SameLetter known.toList given.toList) : Listed c (.state given)

/-- A fault worth another attempt: raised by the engine that the list is for, with a code on it. -/
def Classifier.Worthwhile (c : Classifier) (fault : Driver.Fault) : Prop :=
  ∃ code, Driver.Raised fault c.provider code ∧ c.Listed code

/-- The failures that present a driver's fault. -/
inductive Presents : Driver.Fault → (ε : Type) → [Faulty ε] → ε → Prop where
  | itself (fault : Driver.Fault) : Presents fault Driver.Fault fault
  | coded (error : Driver.Error) : Presents (.coded error) Driver.Error error
  | boxed {fault : Driver.Fault} {ε : Type} [Faulty ε] {e : ε} (content : Presents fault ε e) :
      Presents fault (Boxed ε) ⟨e⟩
  | participant (fault : Driver.Fault) : Presents fault ParticipantError (.driver fault)
  | begin (name : String) (fault : Driver.Fault) :
      Presents fault TransactionError (.begin name (.driver fault))
  | ambientEnlist (name ambient : String) (fault : Driver.Fault) :
      Presents fault TransactionError (.ambientEnlist name ambient (.driver fault))
  | commit (name : String) (index : Nat) (fault : Driver.Fault) :
      Presents fault TransactionError (.commit name index (.driver fault))

/-- The failures that no driver's code stands behind. -/
inductive Codeless : (ε : Type) → [Faulty ε] → ε → Prop where
  | foreign (message : String) : Codeless Driver.Fault (.foreign message)
  | boxed {ε : Type} [Faulty ε] {e : ε} (content : Codeless ε e) : Codeless (Boxed ε) ⟨e⟩
  | absent (phase : Phase) : Codeless ParticipantError (.noActiveTransaction phase)
  | unsupported (capability : String) : Codeless ParticipantError (.unsupported capability)
  | unknown (message : String) : Codeless ParticipantError (.driver (.foreign message))
  | begin (name : String) {source : ParticipantError} (behind : Codeless ParticipantError source) :
      Codeless TransactionError (.begin name source)
  | ambientEnlist (name ambient : String) {source : ParticipantError}
      (behind : Codeless ParticipantError source) :
      Codeless TransactionError (.ambientEnlist name ambient source)
  | commit (name : String) (index : Nat) {source : ParticipantError}
      (behind : Codeless ParticipantError source) :
      Codeless TransactionError (.commit name index source)
  | state (operation reason : String) : Codeless TransactionError (.state operation reason)
  | noActiveTransaction (name : String) (phase : Phase) :
      Codeless TransactionError (.noActiveTransaction name phase)
  | rollback (failures : List RollbackFailure) : Codeless TransactionError (.rollback failures)
  | cancelled (name : String) (index : Nat) (phase : Phase) (outcomeUnknown : Bool) :
      Codeless TransactionError (.cancelled name index phase outcomeUnknown)
  | refused (refusal : Refusal) : Codeless TransactionError (.refused refusal)

namespace Retry

/-- A run that called the operation as often as allowed, and returned its last failure. -/
structure TriedThroughout {ε α : Type} (options : Options) (failures : Nat → ε)
    (run : Except ε α × List (Event ε)) : Prop where
  operations : operations run.2 = options.maxAttempts
  result : run.1 = .error (failures options.maxAttempts)

/-- A run that called the operation once, waited for nothing, and returned its failure. -/
structure TriedOnce {ε α : Type} (failures : Nat → ε) (run : Except ε α × List (Event ε)) : Prop where
  operations : operations run.2 = 1
  sleeps : requests .sleep run.2 = 0
  result : run.1 = .error (failures 1)

end Retry

/-! ## Codes and texts -/

theorem Classifier.sameState_iff (known given : String) :
    sameState known given = true ↔
      List.Forall₂ Text.SameLetter known.toList given.toList := by
  unfold sameState
  rw [beq_iff_eq]
  exact Text.lower_eq_lower_iff known.toList given.toList

/-- The primary code is the low byte of the extended one. -/
theorem Driver.Fault.primary_eq (extended : Int) :
    primary extended = ((BitVec.ofInt 32 extended).setWidth 8).toNat := by
  rw [BitVec.toNat_setWidth, BitVec.toNat_ofInt, primary]
  omega

/-! ## The two kinds of failures -/

theorem Classifier.lists_iff (c : Classifier) (code : Driver.Code) :
    c.lists code = true ↔ c.Listed code := by
  cases code with
  | number n =>
    constructor
    · intro h
      exact .number (List.contains_iff_mem.mp h)
    · intro h
      cases h with
      | number listed => exact List.contains_iff_mem.mpr listed
  | state given =>
    constructor
    · intro h
      obtain ⟨known, hknown, hsame⟩ := List.any_eq_true.mp h
      exact .state hknown ((sameState_iff known given).mp hsame)
    · intro h
      cases h with
      | state listed same =>
        exact List.any_eq_true.mpr ⟨_, listed, (sameState_iff _ given).mpr same⟩

section Kinds

variable {ε : Type} [Faulty ε] {e : ε}

/-- A failure that presents a fault has its code and its origin. -/
theorem Presents.faulty_eq {fault : Driver.Fault} (h : Presents fault ε e) :
    Faulty.code e = Faulty.code fault ∧ Faulty.origin e = Faulty.origin fault := by
  induction h with
  | boxed content ih => exact ih
  | _ => exact ⟨rfl, rfl⟩

/-- What has no code behind it carries none. -/
theorem Codeless.code_eq (h : Codeless ε e) : Faulty.code e = none := by
  induction h with
  | boxed content ih => exact ih
  | begin name behind ih => exact ih
  | ambientEnlist name ambient behind ih => exact ih
  | commit name index behind ih => exact ih
  | _ => rfl

/-- A failed step of a unit of work presents what the participant's failure presents. -/
theorem presents_or_codeless_of_source {step : ParticipantError → TransactionError}
    (presents : ∀ fault, Presents fault TransactionError (step (.driver fault)))
    (codeless : ∀ {source}, Codeless ParticipantError source → Codeless TransactionError (step source))
    (source : ParticipantError) :
    (∃ fault, Presents fault TransactionError (step source)) ∨
      Codeless TransactionError (step source) := by
  cases source with
  | noActiveTransaction phase => exact .inr (codeless (.absent phase))
  | unsupported capability => exact .inr (codeless (.unsupported capability))
  | driver fault => exact .inl ⟨fault, presents fault⟩

/-- Every failure of a unit of work is of one kind or the other. -/
theorem presents_or_codeless (e : TransactionError) :
    (∃ fault, Presents fault TransactionError e) ∨ Codeless TransactionError e := by
  cases e with
  | begin name source =>
    exact presents_or_codeless_of_source (.begin name) (.begin name) source
  | ambientEnlist name ambient source =>
    exact presents_or_codeless_of_source (.ambientEnlist name ambient) (.ambientEnlist name ambient)
      source
  | commit name index source =>
    exact presents_or_codeless_of_source (.commit name index) (.commit name index) source
  | state operation reason => exact .inr (.state operation reason)
  | noActiveTransaction name phase => exact .inr (.noActiveTransaction name phase)
  | rollback failures => exact .inr (.rollback failures)
  | cancelled name index phase outcomeUnknown =>
    exact .inr (.cancelled name index phase outcomeUnknown)
  | refused refusal => exact .inr (.refused refusal)

/-- An origin and a code are those of a fault that an engine raised. -/
theorem raised_iff (fault : Driver.Fault) (provider : Provider) (code : Driver.Code) :
    Driver.Raised fault provider code ↔
      Faulty.origin fault = some provider ∧ Faulty.code fault = some code := by
  constructor
  · intro h
    cases h with
    | coded error => exact ⟨rfl, rfl⟩
    | sqlite extended message =>
      refine ⟨rfl, ?_⟩
      rw [← Driver.Fault.primary_eq]
      rfl
    | postgres state message => exact ⟨rfl, rfl⟩
  · rintro ⟨horigin, hcode⟩
    cases fault with
    | coded error =>
      cases horigin
      cases hcode
      exact .coded error
    | sqlite extended message =>
      cases horigin
      obtain ⟨n, rfl, rfl⟩ := Option.map_eq_some_iff.mp hcode
      rw [Driver.Fault.primary_eq]
      exact .sqlite n message
    | postgres state message =>
      cases horigin
      obtain ⟨given, rfl, rfl⟩ := Option.map_eq_some_iff.mp hcode
      exact .postgres given message
    | foreign message => cases horigin

/-- Whatever presents a fault is retried exactly when the fault is worth it. -/
theorem Classifier.isTransient_iff (c : Classifier) {fault : Driver.Fault}
    (h : Presents fault ε e) : c.isTransient e = true ↔ c.Worthwhile fault := by
  obtain ⟨hcode, horigin⟩ := h.faulty_eq
  unfold Worthwhile isTransient
  rw [hcode, horigin]
  simp only [raised_iff]
  cases horigin : Faulty.origin fault with
  | none =>
    -- Only a fault from elsewhere has no origin, and it has no code.
    have hnone : Faulty.code fault = none := by
      cases fault with
      | foreign message => rfl
      | _ => cases horigin
    simp [hnone]
  | some provider =>
    cases hcode : Faulty.code fault with
    | none => simp
    | some code => simp [lists_iff]

/-- What has no code behind it is never retried. -/
theorem Classifier.isTransient_of_codeless (c : Classifier) (h : Codeless ε e) :
    c.isTransient e = false := by
  unfold isTransient
  rw [h.code_eq]
  cases Faulty.origin e <;> simp

end Kinds

/-! ## A failure on every call -/

namespace Retry

/-- The spans of the log are not watched. -/
instance {ε : Type} : Log.Spans (Watched ε) := ⟨fun _ => pure (), pure ()⟩

section Runs

variable {ε α : Type} [Faulty ε] (retry : ProviderRetry)

/-- Binding a run to a provider changes its log alone. -/
theorem run_runBlocking (script : Script ε α) :
    (retry.runBlocking script.host).run [] =
      (Blocking.run retry.options (.ofClassifier retry.classifier) script.host).run [] := rfl

theorem run_runSuspending (script : Script ε α) :
    (retry.runSuspending (script.under .never)).run [] =
      (((retry.runBlocking script.host).run []).1.mapError .operation,
        ((retry.runBlocking script.host).run []).2) :=
  run_under_never retry.options (.ofClassifier retry.classifier) script

variable {failures : Nat → ε}

/-- If every failure is worth another attempt, the attempts run out. -/
theorem triedThroughout (h : ∀ call, retry.classifier.isTransient (failures call) = true) :
    TriedThroughout (α := α) retry.options failures
      ((retry.runBlocking (Script.host fun call => .error (failures call))).run []) := by
  obtain ⟨k, hk, hrun⟩ := run_trace (α := α) retry.options (.ofClassifier retry.classifier)
    fun call => .error (failures call)
  have hlast : k = retry.options.maxAttempts := by
    obtain ⟨value, hok⟩ | ⟨e, hfailed, hpermanent⟩ | hlast := hk.ends
    · cases hok
    · cases hfailed
      cases (h k).symm.trans hpermanent
    · exact hlast
  rw [run_runBlocking, hrun]
  subst hlast
  constructor
  · exact operations_through hk _
  · rfl

/-- If the first failure is permanent, there is no second attempt. -/
theorem triedOnce (h : retry.classifier.isTransient (failures 1) = false) :
    TriedOnce (α := α) failures
      ((retry.runBlocking (Script.host fun call => .error (failures call))).run []) := by
  obtain ⟨k, hk, hrun⟩ := run_trace (α := α) retry.options (.ofClassifier retry.classifier)
    fun call => .error (failures call)
  have hfirst : k = 1 := by
    by_contra hne
    have hbefore := hk.before 1 (Nat.le_refl 1) (Nat.lt_of_le_of_ne hk.first_le (Ne.symm hne))
    exact hbefore (.inr (.inl ⟨failures 1, rfl, h⟩))
  rw [run_runBlocking, hrun]
  subst hfirst
  constructor
  · exact operations_through hk _
  · exact sleeps_through hk _
  · rfl

end Runs

/-- A retry bound to a provider goes by the engine and the code of the driver's fault behind a failure,
through whatever presents it: worth another attempt are the faults of the list, and nothing else. So an
operation that fails on every call is called as often as allowed if its failures are worth it, and once
if the first is not; either discipline returns the failure of the last call. -/
theorem transience_drives_retry (retry : ProviderRetry) :
    (∀ {ε : Type} [Faulty ε] {fault : Driver.Fault} {e : ε}, Presents fault ε e →
      (retry.classifier.isTransient e = true ↔ retry.classifier.Worthwhile fault)) ∧
    (∀ {ε : Type} [Faulty ε] {e : ε}, Codeless ε e → retry.classifier.isTransient e = false) ∧
    (∀ e : TransactionError,
      (∃ fault, Presents fault TransactionError e) ∨ Codeless TransactionError e) ∧
    ∀ {ε α : Type} [Faulty ε] (failures : Nat → ε),
      let script : Script ε α := fun call => .error (failures call)
      let run := (retry.runBlocking script.host).run []
      ((∀ call, retry.classifier.isTransient (failures call) = true) →
        TriedThroughout retry.options failures run) ∧
      (retry.classifier.isTransient (failures 1) = false → TriedOnce failures run) ∧
      (retry.runSuspending (script.under .never)).run [] =
        (run.1.mapError .operation, run.2) := by
  refine ⟨fun h => retry.classifier.isTransient_iff h,
    fun h => retry.classifier.isTransient_of_codeless h, presents_or_codeless, ?_⟩
  intro ε α _ failures script run
  exact ⟨triedThroughout retry, triedOnce retry, run_runSuspending retry script⟩

/-- Number 20 is a full session table for Oracle and a type mismatch for SQLite. -/
example :
    let full : Driver.Error := ⟨.oracle, .number 20, "maximum number of processes exceeded"⟩
    let mismatch : Driver.Error := ⟨.sqlite, .number 20, "datatype mismatch"⟩
    Provider.oracle.classifier.isTransient full = true ∧
      Provider.oracle.classifier.isTransient mismatch = false := by
  decide

end Retry

end UnitOfWork
