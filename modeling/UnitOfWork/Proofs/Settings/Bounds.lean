import UnitOfWork.Proofs.Steps
import UnitOfWork.Settings.Basic

/-!
# Settings a retry can be built from

`RetrySettings.Usable` is what the bounds ask of the retry part of settings: from one attempt to a
hundred, and a base delay that is no longer than the cap. Options are built exactly from such settings,
whatever the draws of a jitter, and carry their attempts and delays (`options_eq_ok_iff`). So a source
that checks its settings hands on those that are usable, unchanged, and turns down all others as
settings that are wrong (`checked_eq_ok_iff`, `checked_refused`).
-/

set_option autoImplicit false

namespace UnitOfWork

/-! ## The bounds -/

namespace Retry

variable {draft : Draft} {options : Options}

/-- A draft is built to the options that have its values, if there are any. -/
theorem build?_eq_ok_iff :
    draft.build? = .ok options ↔ options.toDraft = draft := by
  unfold Draft.build?
  constructor
  · intro h
    split at h
    · split at h
      · cases h
        rfl
      · cases h
    · cases h
  · rintro rfl
    rw [dif_pos ⟨options.least_le, options.le_most⟩, dif_pos options.base_le]

/-- So it is with the fault put into words. -/
theorem build_eq_ok_iff : draft.build = .ok options ↔ options.toDraft = draft := by
  rw [Draft.build, mapError_eq_ok_iff, build?_eq_ok_iff]

end Retry

/-- A failure that settings are to blame for. -/
def Refusal.IsConfig (e : Refusal) : Prop := ∃ message field, e = .config message field

/-- What the bounds ask of the retry part. -/
structure RetrySettings.Usable (s : RetrySettings) : Prop where
  least : 1 ≤ s.maxAttempts.toNat
  most : s.maxAttempts.toNat ≤ 100
  ordered : s.baseDelay ≤ s.maxDelay

namespace RetrySettings

variable {s : RetrySettings} {draw : Nat → Binary64}

/-- Options are built exactly from usable settings, and have their attempts and delays. -/
theorem options_eq_ok_iff {options : Retry.Options} :
    s.options draw = .ok options ↔ options.toDraft = s.draft draw :=
  Retry.build_eq_ok_iff

/-- A retry is usable when options can be built from it, whatever is drawn. -/
theorem usable_iff : s.Usable ↔ ∃ options, s.options draw = .ok options := by
  simp only [options_eq_ok_iff]
  constructor
  · intro h
    exact ⟨{ s.draft draw with least_le := h.least, le_most := h.most, base_le := h.ordered }, rfl⟩
  · rintro ⟨options, hdraft⟩
    have hattempts : options.maxAttempts = s.maxAttempts.toNat := congrArg Retry.Draft.maxAttempts hdraft
    have hbase : options.baseDelay = s.baseDelay := congrArg Retry.Draft.baseDelay hdraft
    have hcap : options.maxDelay = s.maxDelay := congrArg Retry.Draft.maxDelay hdraft
    exact
      { least := hattempts ▸ options.least_le
        most := hattempts ▸ options.le_most
        ordered := hbase ▸ hcap ▸ options.base_le }

/-- Only the bounds are checked. -/
theorem check_eq_ok_iff : s.check = .ok () ↔ s.Usable := by
  rw [usable_iff, check]
  cases s.options fun _ => Binary64.zero <;> simp [Except.map]

/-- What a check turns down is an error of the settings. -/
theorem check_refused {e : Refusal} (h : s.check = .error e) : e.IsConfig := by
  unfold check options Retry.Draft.build at h
  cases hbuild : (s.draft fun _ => Binary64.zero).build? with
  | ok options =>
    rw [hbuild] at h
    cases h
  | error fault =>
    rw [hbuild] at h
    cases h
    exact ⟨_, _, rfl⟩

end RetrySettings

namespace Settings

variable {s t : Settings}

/-- Settings are handed on exactly when their retry part is usable, and they are handed on unchanged. -/
theorem checked_eq_ok_iff : s.checked = .ok t ↔ s = t ∧ t.retry.Usable := by
  unfold checked
  cases hcheck : s.retry.check with
  | ok _ =>
    constructor
    · intro h
      cases h
      exact ⟨rfl, RetrySettings.check_eq_ok_iff.mp hcheck⟩
    · rintro ⟨rfl, -⟩
      rfl
  | error e =>
    constructor
    · intro h
      cases h
    · rintro ⟨rfl, husable⟩
      cases hcheck.symm.trans (RetrySettings.check_eq_ok_iff.mpr husable)

/-- So is what is turned down with all settings together. -/
theorem checked_refused {e : Refusal} (h : s.checked = .error e) : e.IsConfig := by
  unfold checked at h
  cases hcheck : s.retry.check with
  | ok _ =>
    rw [hcheck] at h
    cases h
  | error e' =>
    rw [hcheck] at h
    cases h
    exact RetrySettings.check_refused hcheck

end Settings

end UnitOfWork
