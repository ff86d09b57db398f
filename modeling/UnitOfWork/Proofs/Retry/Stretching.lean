import UnitOfWork.Proofs.Binary64.Text
import UnitOfWork.Retry.Options

/-!
# Stretched delays

A delay is stretched in binary64 and cut at the cap. The comparison with the cap is made between
rounded numbers, and the rounding of the cap may lie past the cap; the stretched delay stays below it
all the same, because it is a value of the format itself (`stretch_le`).

`nanos_stretch` gives the stretched delay in whole numbers, for the factors that a jitter can hand out.
-/

set_option autoImplicit false

namespace UnitOfWork.Retry

open Binary64

/-! ## Factors -/

/-- A factor that stretches nothing: zero, negative, or no number. -/
def IsIdle (factor : Binary64) : Prop := factor.isNaN = true ∨ factor.isNonPositive = true

instance (factor : Binary64) : Decidable (IsIdle factor) := inferInstanceAs (Decidable (_ ∨ _))

/-- A factor that stretches nothing becomes zero. -/
theorem sanitize_of_isIdle {raw : Binary64} (h : IsIdle raw) : Jitter.sanitize raw = zero := by
  unfold Jitter.sanitize
  rw [if_pos]
  rcases h with h | h <;> simp [h]

/-- Every other factor becomes one above zero and below one. -/
theorem sanitize_of_not_isIdle {raw : Binary64} (h : ¬ IsIdle raw) :
    (Jitter.sanitize raw).isNonPositive = false ∧
      (Jitter.sanitize raw).magnitude < 1023 * binade := by
  have hraw : raw.isNaN = false ∧ raw.isNonPositive = false := by
    simpa [IsIdle] using h
  have hgreatest : Jitter.greatest.magnitude < 1023 * binade := by decide
  unfold Jitter.sanitize
  rw [hraw.1, hraw.2, if_neg (by decide)]
  split
  · next hle => exact ⟨hraw.2, Nat.lt_of_le_of_lt hle hgreatest⟩
  · exact ⟨by decide, hgreatest⟩

/-- What a provider returns is brought into the half-open range from zero to one, whatever it is. -/
theorem isProperFraction_factor (jitter : Jitter) (attempt : Nat) :
    (jitter.factor attempt).isProperFraction = true := by
  rw [isProperFraction_iff, Jitter.factor]
  by_cases hidle : IsIdle (jitter.raw attempt)
  · rw [sanitize_of_isIdle hidle]
    decide
  · obtain ⟨hpositive, hsmall⟩ := sanitize_of_not_isIdle hidle
    refine ⟨?_, hsmall⟩
    have hnumber : (Jitter.sanitize (jitter.raw attempt)).isNaN = false := by
      have hbelow : 1023 * binade < infiniteMagnitude := by decide
      simp only [isNaN, decide_eq_false_iff_not]
      omega
    rw [isNonPositive, hnumber] at hpositive
    exact (Bool.or_eq_false_iff.mp hpositive).1

/-- The stand-in draws from the upper half of the unit interval, as a generator may. -/
theorem weyl_range (attempt : Nat) :
    1022 * binade ≤ (Jitter.weyl attempt).magnitude ∧
      (Jitter.weyl attempt).isProperFraction = true := by
  have hfraction : attempt * 0x9e3779b97f4a7 % binade < binade := Nat.mod_lt _ (by decide)
  have hbinade : binade = 2 ^ 52 := Nat.one_shiftLeft 52
  have hbits : (Jitter.weyl attempt).bits.toNat =
      1022 * binade + attempt * 0x9e3779b97f4a7 % binade := by
    rw [Jitter.weyl, BitVec.toNat_ofNat, Nat.mod_eq_of_lt (by omega)]
  have hmagnitude : (Jitter.weyl attempt).magnitude = (Jitter.weyl attempt).bits.toNat := by
    rw [magnitude, Nat.one_shiftLeft, Nat.mod_eq_of_lt (by omega)]
  rw [isProperFraction_iff, hmagnitude, hbits, isNegative, hbits, Nat.one_shiftLeft,
    decide_eq_false_iff_not]
  omega

/-! ## Stretching -/

section Stretch

variable {candidate cap : Duration} {factor : Binary64}

theorem shorter_of_le (h : candidate ≤ cap) : candidate.shorter cap = candidate := if_pos h

/-- A value below the rounded cap is not past the cap, so the cap holds for every factor whatever. -/
theorem toCount_le {stretched : Result} {n : Nat} (hn : n ≤ 2 ^ 128)
    (hvalue : ∀ g, stretched = .finite g → IsValue g)
    (hbelow : stretched.atLeast (ofNat n) = false) : stretched.toCount ≤ n := by
  rw [ofNat_eq hn] at hbelow
  cases stretched with
  | finite g =>
    have hlt : g < grainsOf n := by
      simpa [Result.atLeast] using hbelow
    apply Nat.le_trans (Nat.min_le_left _ _)
    exact div_unit_le (hvalue g rfl) hlt
  | infinite => cases hbelow
  | notANumber => exact Nat.zero_le n

/-- Nanoseconds fit 128 bits. -/
theorem nanos_le_two_pow (a : Duration) : a.nanos ≤ 2 ^ 128 :=
  Nat.le_trans a.nanos_le (by decide)

/-- The rounding of a delay does not leave the format. -/
theorem grainsOf_lt_overflow (a : Duration) : grainsOf a.nanos < overflow :=
  lt_overflow_of_le (Nat.le_refl 128)
    (grainsOf_le (isValue_two_pow_mul_unit 128) (Nat.mul_le_mul_right unit (nanos_le_two_pow a)))

/-- A stretched delay is no longer than its cap, whatever the factor is. -/
theorem stretch_le (candidate : Duration) (factor : Binary64) (cap : Duration) :
    stretch candidate factor cap ≤ cap := by
  unfold stretch
  dsimp only
  split
  · show (candidate.shorter cap).nanos ≤ cap.nanos
    rw [Duration.nanos_shorter]
    exact Nat.min_le_right _ _
  · split
    · exact Nat.le_refl cap.nanos
    · next hbelow =>
      apply Nat.le_trans (Nat.min_le_left _ _)
      apply toCount_le (nanos_le_two_pow cap) (fun g h => isValue_of_mul h)
      simpa using hbelow

/-- A factor that is not above zero leaves a delay as it is. -/
theorem stretch_of_isNonPositive (hfactor : factor.isNonPositive = true) (hle : candidate ≤ cap) :
    stretch candidate factor cap = candidate := by
  unfold stretch
  dsimp only
  rw [if_pos hfactor, shorter_of_le hle]

/-- A stretched delay in grains: the delay and the sum of one and the factor are rounded, and so is
their product. -/
def stretchedGrains (nanos g : Nat) : Nat := rounded (grainsOf nanos * rounded (unit + g) 1) unit

/-- A stretched delay is computed in grains, with a rounding for the delay, the sum and the product.
-/
theorem mul_onePlus (candidate : Duration) (hsmall : factor.magnitude < 1023 * binade) :
    Binary64.mul (ofNat candidate.nanos) (onePlus factor.value) =
      if stretchedGrains candidate.nanos (grains factor.magnitude) < overflow
      then .finite (stretchedGrains candidate.nanos (grains factor.magnitude)) else .infinite := by
  rw [ofNat_eq (nanos_le_two_pow candidate), value_of_lt_one hsmall,
    onePlus_eq (grains_lt_unit hsmall), Binary64.mul, round_eq, stretchedGrains]

/-- The comparison with the cap is the one of the whole numbers; infinity is past every cap. -/
theorem atLeast_cap (candidate cap : Duration) (hsmall : factor.magnitude < 1023 * binade) :
    (Binary64.mul (ofNat candidate.nanos) (onePlus factor.value)).atLeast (ofNat cap.nanos) =
      decide (grainsOf cap.nanos ≤ stretchedGrains candidate.nanos (grains factor.magnitude)) := by
  have hcap := grainsOf_lt_overflow cap
  rw [mul_onePlus candidate hsmall, ofNat_eq (nanos_le_two_pow cap)]
  split
  · rfl
  · show true = decide _
    rw [decide_eq_true (by omega)]

/-- A delay stretched by a factor below one. -/
theorem nanos_stretch (hpositive : factor.isNonPositive = false)
    (hsmall : factor.magnitude < 1023 * binade) (hle : candidate ≤ cap) :
    (stretch candidate factor cap).nanos =
      if grainsOf cap.nanos ≤ stretchedGrains candidate.nanos (grains factor.magnitude)
      then cap.nanos
      else min (stretchedGrains candidate.nanos (grains factor.magnitude) / unit)
        (UInt64.size - 1) := by
  have hlimit : UInt64.size - 1 ≤ Duration.limit := by decide
  unfold stretch
  dsimp only
  rw [hpositive, if_neg (by decide), shorter_of_le hle, atLeast_cap candidate cap hsmall]
  by_cases hpast : grainsOf cap.nanos ≤ stretchedGrains candidate.nanos (grains factor.magnitude)
  · rw [decide_eq_true hpast, if_pos rfl, if_pos hpast]
  · rw [decide_eq_false hpast, if_neg (by decide), if_neg hpast, Duration.nanos_ofNanos,
      mul_onePlus candidate hsmall]
    split
    · show min (min _ (UInt64.size - 1)) Duration.limit = _
      omega
    · -- What leaves the format is past the cap.
      exact absurd (Nat.le_trans (grainsOf_lt_overflow cap).le (by omega)) hpast

end Stretch

/-! ## Delays -/

section Delay

variable {attempt : Nat} {base cap : Duration} {jitter : Jitter}

/-- The schedule keeps to the cap. -/
theorem exponentialDelay_le : exponentialDelay attempt base cap ≤ cap := by
  show (exponentialDelay attempt base cap).nanos ≤ cap.nanos
  rw [exponentialDelay, Duration.nanos_shorter]
  exact Nat.min_le_right _ _

/-- So does every delay, whatever the jitter draws. -/
theorem delay_le : delay attempt base cap jitter ≤ cap := stretch_le _ _ _

/-- A factor that stretches nothing leaves the delay as it is. -/
theorem delay_of_isIdle (h : IsIdle (jitter.raw attempt)) :
    delay attempt base cap jitter = exponentialDelay attempt base cap := by
  apply stretch_of_isNonPositive _ exponentialDelay_le
  rw [Jitter.factor, sanitize_of_isIdle h]
  decide

end Delay

end UnitOfWork.Retry
