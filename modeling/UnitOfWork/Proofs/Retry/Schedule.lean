import UnitOfWork.Proofs.Duration.Parts
import UnitOfWork.Proofs.Retry.Delays

/-!
# The exponential schedule

Without jitter the delay after an attempt is the base, doubled with every attempt but at most thirty
times, and cut at the cap. `nanos_exponentialDelay` says so in whole nanoseconds, with no bound on the
product in between: the product is cut at the widest span before it is cut at the cap, and the cap is no
wider.

The clock has words of 32 and 64 bits in place of whole numbers. `wordDelay` is the same delay computed
on words, and no step of it leaves its word (`Fits`), so it is the same delay (`toDuration_wordDelay`).
-/

set_option autoImplicit false

namespace UnitOfWork.Retry

open Duration (Parts)

/-! ## In whole nanoseconds -/

section Whole

variable {attempt attempt' : Nat} {base base' cap cap' : Duration}

/-- The delay is the doubled base or the cap, whichever is shorter. -/
theorem nanos_exponentialDelay (attempt : Nat) (base cap : Duration) :
    (exponentialDelay attempt base cap).nanos =
      min (base.nanos * 2 ^ min (max attempt 1 - 1) 30) cap.nanos := by
  have hexponent : exponent attempt = min (max attempt 1 - 1) 30 := by
    unfold exponent greatestExponent
    omega
  have hcap := cap.nanos_le
  rw [exponentialDelay, Duration.nanos_shorter, Duration.nanos_scale, Nat.one_shiftLeft,
    hexponent, Nat.min_assoc, Nat.min_eq_right hcap]

/-- Later attempts, longer bases and wider caps do not shorten it. -/
theorem exponentialDelay_mono (hattempt : attempt ≤ attempt') (hbase : base ≤ base')
    (hcap : cap ≤ cap') : exponentialDelay attempt base cap ≤ exponentialDelay attempt' base' cap' := by
  have hexponent : min (max attempt 1 - 1) 30 ≤ min (max attempt' 1 - 1) 30 := by omega
  have hpower : 2 ^ min (max attempt 1 - 1) 30 ≤ 2 ^ min (max attempt' 1 - 1) 30 :=
    Nat.pow_le_pow_right (by decide) hexponent
  have hproduct : base.nanos * 2 ^ min (max attempt 1 - 1) 30 ≤
      base'.nanos * 2 ^ min (max attempt' 1 - 1) 30 := Nat.mul_le_mul hbase hpower
  show (exponentialDelay attempt base cap).nanos ≤ (exponentialDelay attempt' base' cap').nanos
  rw [nanos_exponentialDelay, nanos_exponentialDelay]
  exact min_le_min hproduct hcap

end Whole

/-! ## In words -/

section Words

variable (attempt : UInt32) (base cap : Parts)

/-- Attempts before, on a word: nothing is taken off zero. -/
def wordBefore (attempt : UInt32) : UInt32 := if attempt = 0 then 0 else attempt - 1

/-- Doublings, on a word. -/
def wordExponent (attempt : UInt32) : UInt32 :=
  if wordBefore attempt ≤ 30 then wordBefore attempt else 30

/-- The factor of the base, on a word. -/
def wordFactor (attempt : UInt32) : UInt32 := 1 <<< wordExponent attempt

/-- The delay without jitter, on words. -/
def wordDelay (attempt : UInt32) (base cap : Parts) : Parts :=
  (base.scale (wordFactor attempt)).shorter cap

/-- No step on words leaves its word: the shift is shorter than the word and loses no bit, and the
nanoseconds of the product fit 64 bits. -/
structure Fits (attempt : UInt32) (base : Parts) : Prop where
  shift : (wordExponent attempt).toNat < 32
  factor : (wordFactor attempt).toNat = 2 ^ (wordExponent attempt).toNat
  carried : (base.carried (wordFactor attempt)).toNat =
    base.nanos.toNat * (wordFactor attempt).toNat

/-- The attempts before, on a word, are those in whole numbers. -/
theorem toNat_wordBefore : (wordBefore attempt).toNat = attempt.toNat - 1 := by
  unfold wordBefore
  split
  · next hzero =>
    rw [hzero]
    rfl
  · next hpos =>
    have hne : attempt.toNat ≠ 0 := fun h => hpos (UInt32.toNat_inj.mp h)
    have hone : (1 : UInt32) ≤ attempt :=
      UInt32.le_iff_toNat_le.mpr (Nat.one_le_iff_ne_zero.mpr hne)
    exact UInt32.toNat_sub_of_le _ _ hone

/-- So are the doublings. -/
theorem toNat_wordExponent : (wordExponent attempt).toNat = exponent attempt.toNat := by
  unfold wordExponent exponent greatestExponent
  rw [← toNat_wordBefore]
  by_cases h : wordBefore attempt ≤ 30
  · rw [if_pos h]
    exact (Nat.min_eq_left (UInt32.le_iff_toNat_le.mp h)).symm
  · rw [if_neg h]
    rw [UInt32.le_iff_toNat_le] at h
    exact (Nat.min_eq_right (Nat.le_of_not_le h)).symm

theorem exponent_lt (attempt : Nat) : exponent attempt < 31 :=
  Nat.lt_succ_of_le (Nat.min_le_right _ _)

/-- No bit of the factor is lost by the shift. -/
theorem toNat_wordFactor : (wordFactor attempt).toNat = 1 <<< exponent attempt.toNat := by
  have hlt := exponent_lt attempt.toNat
  have hfits : 1 <<< exponent attempt.toNat < UInt32.size := by
    rw [Nat.one_shiftLeft]
    exact Nat.pow_lt_pow_right (by decide : 1 < 2) (Nat.lt_trans hlt (by decide : 31 < 32))
  have hshift : exponent attempt.toNat % 32 = exponent attempt.toNat :=
    Nat.mod_eq_of_lt (Nat.lt_trans hlt (by decide))
  rw [wordFactor, UInt32.toNat_shiftLeft, toNat_wordExponent, hshift]
  exact Nat.mod_eq_of_lt hfits

/-- Every step on words stays within its word, for all attempts and bases. -/
theorem fits : Fits attempt base where
  shift := by
    rw [toNat_wordExponent]
    exact Nat.lt_trans (exponent_lt attempt.toNat) (by decide)
  factor := by
    rw [toNat_wordFactor, toNat_wordExponent, Nat.one_shiftLeft]
  carried := base.toNat_carried _

/-- The delay on words is the delay. -/
theorem toDuration_wordDelay : (wordDelay attempt base cap).toDuration =
    exponentialDelay attempt.toNat base.toDuration cap.toDuration := by
  rw [wordDelay, Parts.toDuration_shorter, Parts.toDuration_scale, toNat_wordFactor, exponentialDelay]

end Words

/-! ## Runs without jitter -/

section Runs

variable {ε α : Type}

/-- Every attempt fails, with a failure worth another attempt. -/
def Exhausts (options : Options) (policy : Policy ε) (script : Script ε α) : Prop :=
  ∀ i, 1 ≤ i → i ≤ options.maxAttempts → ∃ e, script i = .error e ∧ policy.isTransient e = true

/-- The delays after all attempts but the last. -/
def schedule (options : Options) : List Duration :=
  (List.range' 1 (options.maxAttempts - 1)).map fun i =>
    exponentialDelay i options.baseDelay options.maxDelay

variable {options : Options} {policy : Policy ε} {script : Script ε α}

/-- A run that exhausts its attempts ends with the last one allowed. -/
theorem Exhausts.endsLast (h : Exhausts options policy script) {k : Nat}
    (hk : EndsFirst options policy script 1 k) : k = options.maxAttempts := by
  have hle := hk.le_maxAttempts
  by_contra hne
  obtain ⟨e, houtcome, htransient⟩ := h k hk.first_le hle
  exact not_ends_iff.mpr ⟨⟨e, houtcome, htransient⟩, hne⟩ hk.ends

/-- Without jitter the delays are those of the schedule. -/
theorem delayFor_of_none (h : options.jitter = .none) (attempt : Nat) :
    options.delayFor attempt = exponentialDelay attempt options.baseDelay options.maxDelay := by
  apply delay_of_isIdle
  rw [h]
  show IsIdle Binary64.zero
  decide

/-- The sleeper of a run that makes all its attempts is asked for the schedule. -/
theorem Paced.asked_schedule {events : List (Event ε)} (hjitter : options.jitter = .none)
    (h : Paced options (options.maxAttempts - 1) events) : Retry.asked events = schedule options := by
  rw [h.asked, schedule]
  exact List.map_congr_left fun i _ => delayFor_of_none hjitter i

end Runs

/-! ## The main statement -/

/-- The exponential delay after any attempt, attempt zero included, is in whole nanoseconds the base
times two to the number of doublings, or the cap. So it does not fall with the attempt, the base or the
cap, and does not pass the cap. On words of 32 and 64 bits no step leaves its word and the delay is the
same. A run without jitter that uses up its attempts sleeps this schedule, blocking or suspending. -/
theorem exponential_schedule {ε α : Type} (policy : Policy ε) :
    (∀ attempt base cap, (exponentialDelay attempt base cap).nanos =
        min (base.nanos * 2 ^ min (max attempt 1 - 1) 30) cap.nanos) ∧
      (∀ attempt attempt' base base' cap cap', attempt ≤ attempt' → base ≤ base' → cap ≤ cap' →
        exponentialDelay attempt base cap ≤ exponentialDelay attempt' base' cap') ∧
      (∀ attempt base cap, exponentialDelay attempt base cap ≤ cap) ∧
      (∀ attempt base cap, Fits attempt base ∧ (wordDelay attempt base cap).toDuration =
        exponentialDelay attempt.toNat base.toDuration cap.toDuration) ∧
      ∀ (options : Options) (script : Script ε α), options.jitter = .none →
        Exhausts options policy script →
        asked ((Blocking.run options policy script.host).run []).2 = schedule options ∧
          ∀ instant, let run := (Suspending.run options policy (script.under instant)).run []
            (∀ calls, run.1 ≠ .error (.cancelled calls)) → asked run.2 = schedule options := by
  refine ⟨nanos_exponentialDelay, ?_, ?_, ?_, ?_⟩
  · intro attempt attempt' base base' cap cap' hattempt hbase hcap
    exact exponentialDelay_mono hattempt hbase hcap
  · intro attempt base cap
    exact exponentialDelay_le
  · intro attempt base cap
    exact ⟨fits attempt base, toDuration_wordDelay attempt base cap⟩
  · intro options script hjitter hexhausts
    constructor
    · obtain ⟨k, hk, -, hpaced⟩ := paced_blocking options policy script
      rw [hexhausts.endsLast hk] at hpaced
      exact hpaced.asked_schedule hjitter
    · intro instant run hgoes
      obtain ⟨k, hk⟩ : ∃ k, EndsFirst options policy script 1 k :=
        exists_endsFirst (Nat.add_sub_cancel' options.least_le)
      rcases paced_suspending hk instant with ⟨calls, hcancelled, -⟩ | ⟨-, hpaced⟩
      · exact absurd hcancelled (hgoes calls)
      · rw [hexhausts.endsLast hk] at hpaced
        exact hpaced.asked_schedule hjitter

end UnitOfWork.Retry
