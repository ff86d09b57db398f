import UnitOfWork.LayeredFailure
import UnitOfWork.Proofs.Retry.Transience

/-!
# Failures of any layer retried

An operation that fails at any height, with a driver's fault, a participant's failure or the failure of a
unit of work, is retried for the fault behind it and nothing else (`LayeredFailure.isTransient_iff`). So
the height at which a fault is reported does not decide how often the operation is called.
-/

set_option autoImplicit false

namespace UnitOfWork

/-- The layered failures that present a driver's fault. -/
inductive LayeredFailure.Shows (fault : Driver.Fault) : LayeredFailure → Prop where
  | driver : Shows fault (.driver fault)
  | participant {error : ParticipantError} (presents : Presents fault ParticipantError error) :
      Shows fault (.participant error)
  | transaction {error : TransactionError} (presents : Presents fault TransactionError error) :
      Shows fault (.transaction error)

namespace LayeredFailure

/-! A layered failure is judged as the failure it is. -/

section Layers

variable (c : Classifier)

theorem isTransient_driver (fault : Driver.Fault) :
    c.isTransient (driver fault) = c.isTransient fault := rfl

theorem isTransient_participant (error : ParticipantError) :
    c.isTransient (participant error) = c.isTransient error := rfl

theorem isTransient_transaction (error : TransactionError) :
    c.isTransient (transaction error) = c.isTransient error := rfl

end Layers

/-- A failure that shows a fault is retried exactly when the fault is worth it. -/
theorem Shows.isTransient_iff {fault : Driver.Fault} {failure : LayeredFailure}
    (h : failure.Shows fault) (c : Classifier) :
    c.isTransient failure = true ↔ c.Worthwhile fault := by
  cases h with
  | driver =>
    rw [isTransient_driver]
    exact c.isTransient_iff (.itself fault)
  | participant presents =>
    rw [isTransient_participant]
    exact c.isTransient_iff presents
  | transaction presents =>
    rw [isTransient_transaction]
    exact c.isTransient_iff presents

/-- The same fault is judged alike whatever reports it. -/
theorem isTransient_congr {fault : Driver.Fault} {a b : LayeredFailure} (ha : a.Shows fault)
    (hb : b.Shows fault) (c : Classifier) : c.isTransient a = c.isTransient b := by
  rw [Bool.eq_iff_iff, ha.isTransient_iff c, hb.isTransient_iff c]

/-- A layered failure is retried exactly when it shows a fault that is worth it. -/
theorem isTransient_iff (c : Classifier) (failure : LayeredFailure) :
    c.isTransient failure = true ↔ ∃ fault, failure.Shows fault ∧ c.Worthwhile fault := by
  constructor
  · intro h
    suffices hshows : ∃ fault, failure.Shows fault by
      obtain ⟨fault, hshows⟩ := hshows
      exact ⟨fault, hshows, (hshows.isTransient_iff c).mp h⟩
    -- What shows no fault is codeless, and that is never retried.
    cases failure with
    | driver fault => exact ⟨fault, .driver⟩
    | participant error =>
      rw [isTransient_participant] at h
      cases error with
      | driver fault => exact ⟨fault, .participant (.participant fault)⟩
      | noActiveTransaction phase =>
        cases h.symm.trans (c.isTransient_of_codeless (.absent phase))
      | unsupported capability =>
        cases h.symm.trans (c.isTransient_of_codeless (.unsupported capability))
    | transaction error =>
      rw [isTransient_transaction] at h
      obtain ⟨fault, hpresents⟩ | hcodeless := presents_or_codeless error
      · exact ⟨fault, .transaction hpresents⟩
      · cases h.symm.trans (c.isTransient_of_codeless hcodeless)
  · rintro ⟨fault, hshows, hworthwhile⟩
    exact (hshows.isTransient_iff c).mpr hworthwhile

end LayeredFailure

namespace Retry

variable {α : Type}

/-- An operation that fails on every call is called as often as allowed if each failure shows a fault
that is worth it, and once if the first shows none. -/
theorem layered_run (retry : ProviderRetry) (failures : Nat → LayeredFailure) :
    let run := (retry.runBlocking (Script.host (α := α) fun call => .error (failures call))).run []
    let isWorthwhile (failure : LayeredFailure) :=
      ∃ fault, failure.Shows fault ∧ retry.classifier.Worthwhile fault
    ((∀ call, isWorthwhile (failures call)) → TriedThroughout retry.options failures run) ∧
      (¬ isWorthwhile (failures 1) → TriedOnce failures run) := by
  refine ⟨fun h => triedThroughout retry fun call => ?_, fun h => triedOnce retry ?_⟩
  · exact (LayeredFailure.isTransient_iff retry.classifier (failures call)).mpr (h call)
  · rw [Bool.eq_false_iff]
    exact fun htransient => h ((LayeredFailure.isTransient_iff _ _).mp htransient)

end Retry

end UnitOfWork
