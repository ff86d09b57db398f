import UnitOfWork.Proofs.Retry.Stretching

/-!
# When jitter shortens a delay

Jitter is there to lengthen delays, and mostly it does. It shortens one where the way through binary64
and back loses more than the factor adds: a delay of 64 bits or more is cut when it is read back, and a
factor of at most `2 ^ -53` is itself lost, so that nothing makes up for a delay that was rounded down.
Both need a delay that the cap leaves room for. `delay_shortened_iff` says that there is no other way,
and `half_shortens` is a case of the first one.

The argument compares the delay, rounded to a value of the format, with the values around it. A factor
that is not lost adds at least one place to it, which is more than a rounding down can take.
-/

set_option autoImplicit false

namespace UnitOfWork.Retry

open Binary64

/-! ## In whole numbers -/

section Grains

variable {nanos g : Nat}

theorem unit_le_rounded_unit_add (hg : g < unit) : unit ≤ rounded (unit + g) 1 := by
  rcases rounded_unit_add_cases hg with ⟨-, h⟩ | ⟨-, h⟩ <;> omega

/-- Stretching does not bring a delay below its own rounding. -/
theorem grainsOf_le_stretchedGrains (hg : g < unit) : grainsOf nanos ≤ stretchedGrains nanos g := by
  apply le_rounded unit_pos (isValue_grainsOf nanos)
  exact Nat.mul_le_mul_left _ (unit_le_rounded_unit_add hg)

/-- A factor that is lost leaves the rounding of the delay. -/
theorem stretchedGrains_of_negligible (h : Negligible g) :
    stretchedGrains nanos g = grainsOf nanos := by
  rw [stretchedGrains, rounded_unit_add_of_negligible h]
  exact rounded_of_isValue unit_pos (isValue_grainsOf nanos)

/-- Any other factor makes up for the rounding. -/
theorem le_stretchedGrains (hg : g < unit) (h : ¬ Negligible g) :
    nanos * unit ≤ stretchedGrains nanos g := by
  by_cases hdown : grainsOf nanos < nanos * unit
  · obtain ⟨u, hu, hvalue, hnext⟩ := exists_next_grainsOf hdown
    apply Nat.le_trans hnext
    apply le_rounded unit_pos hvalue
    have hplace : u * unit ≤ grainsOf nanos * ulp := by
      calc u * unit = 2 ^ 52 * u * ulp := by
            rw [unit_eq_ulp]
            ring
        _ ≤ grainsOf nanos * ulp := Nat.mul_le_mul_right ulp hu
    calc (grainsOf nanos + u) * unit = grainsOf nanos * unit + u * unit := Nat.add_mul ..
      _ ≤ grainsOf nanos * unit + grainsOf nanos * ulp := Nat.add_le_add_left hplace _
      _ = grainsOf nanos * (unit + ulp) := (Nat.mul_add ..).symm
      _ ≤ grainsOf nanos * rounded (unit + g) 1 :=
        Nat.mul_le_mul_left _ (le_rounded_unit_add hg h)
  · exact Nat.le_trans (Nat.le_of_not_lt hdown) (grainsOf_le_stretchedGrains hg)

/-- A stretched delay lies below the delay only if the factor was lost and the delay rounded down. -/
theorem stretchedGrains_lt_iff (hg : g < unit) :
    stretchedGrains nanos g < nanos * unit ↔ Negligible g ∧ grainsOf nanos < nanos * unit := by
  constructor
  · intro hlt
    have hlost : Negligible g := by
      by_contra h
      have hle : nanos * unit ≤ stretchedGrains nanos g := le_stretchedGrains hg h
      omega
    rw [stretchedGrains_of_negligible hlost] at hlt
    exact ⟨hlost, hlt⟩
  · rintro ⟨hlost, hdown⟩
    rwa [stretchedGrains_of_negligible hlost]

/-- Read back, the stretched delay is below the delay if it was so before, or if the delay has more
than 64 bits. -/
theorem count_lt_iff (hg : g < unit) :
    min (stretchedGrains nanos g / unit) (UInt64.size - 1) < nanos ↔
      UInt64.size ≤ nanos ∨ Negligible g ∧ grainsOf nanos < nanos * unit := by
  have hsize : 0 < UInt64.size := by decide
  have hdiv : stretchedGrains nanos g / unit < nanos ↔
      Negligible g ∧ grainsOf nanos < nanos * unit := by
    rw [Nat.div_lt_iff_lt_mul unit_pos, stretchedGrains_lt_iff hg]
  rw [← hdiv]
  omega

/-- A count that comes back smaller was cut, or it is what the rounding of the delay comes back as. -/
theorem count_of_lt (hg : g < unit)
    (hlt : min (stretchedGrains nanos g / unit) (UInt64.size - 1) < nanos) :
    min (stretchedGrains nanos g / unit) (UInt64.size - 1) =
      min (grainsOf nanos / unit) (UInt64.size - 1) := by
  rcases (count_lt_iff hg).mp hlt with hlong | ⟨hlost, -⟩
  · have hvalue : IsValue (UInt64.size * unit) := isValue_two_pow_mul_unit 64
    have hrounded : UInt64.size ≤ grainsOf nanos / unit := by
      rw [Nat.le_div_iff_mul_le unit_pos]
      exact le_grainsOf hvalue (Nat.mul_le_mul_right unit hlong)
    have hstretched : grainsOf nanos / unit ≤ stretchedGrains nanos g / unit :=
      Nat.div_le_div_right (grainsOf_le_stretchedGrains hg)
    omega
  · rw [stretchedGrains_of_negligible hlost]

end Grains

/-! ## In binary64 -/

/-- A factor of at most `2 ^ -53`. -/
def IsTiny (factor : Binary64) : Prop := ∃ g, factor.value = .finite g ∧ 2 ^ 53 * g ≤ unit

/-- A count whose nearest value in binary64 lies below it. -/
def RoundsDown (n : Nat) : Prop := ∃ g, ofNat n = .finite g ∧ g < n * unit

/-- A delay rounds down exactly when its rounding has fewer grains. -/
theorem roundsDown_iff {n : Nat} (hn : n ≤ 2 ^ 128) : RoundsDown n ↔ grainsOf n < n * unit := by
  unfold RoundsDown
  rw [ofNat_eq hn]
  constructor
  · rintro ⟨g, hg, hlt⟩
    cases hg
    exact hlt
  · intro hlt
    exact ⟨_, rfl, hlt⟩

theorem isTiny_iff {factor : Binary64} (hsmall : factor.magnitude < 1023 * binade) :
    IsTiny factor ↔ Negligible (grains factor.magnitude) := by
  unfold IsTiny
  rw [value_of_lt_one hsmall]
  constructor
  · rintro ⟨g, hg, hle⟩
    cases hg
    exact hle
  · intro hle
    exact ⟨_, rfl, hle⟩

section Stretch

variable {candidate cap : Duration} {factor : Binary64}

/-- A stretched delay can be below the delay only where the cap is not reached. -/
theorem stretch_lt_iff_count (hpositive : factor.isNonPositive = false)
    (hsmall : factor.magnitude < 1023 * binade) (hle : candidate ≤ cap) :
    stretch candidate factor cap < candidate ↔
      ¬ grainsOf cap.nanos ≤ stretchedGrains candidate.nanos (grains factor.magnitude) ∧
        min (stretchedGrains candidate.nanos (grains factor.magnitude) / unit) (UInt64.size - 1) <
          candidate.nanos := by
  show (stretch candidate factor cap).nanos < candidate.nanos ↔ _
  rw [nanos_stretch hpositive hsmall hle]
  split
  · next hpast =>
    constructor
    · intro hlt
      exact absurd hle (Nat.not_le.mpr hlt)
    · intro h
      exact absurd hpast h.1
  · next hbelow => exact ⟨fun hlt => ⟨hbelow, hlt⟩, fun h => h.2⟩

/-- A stretched delay is shorter than the plain one when the cap does not step in and its count
leaves 64 bits, or the factor is lost and the delay rounded down. -/
theorem stretch_lt_iff (hpositive : factor.isNonPositive = false)
    (hsmall : factor.magnitude < 1023 * binade) (hle : candidate ≤ cap) :
    stretch candidate factor cap < candidate ↔
      (Binary64.mul (ofNat candidate.nanos) (onePlus factor.value)).atLeast (ofNat cap.nanos) =
          false ∧
        (UInt64.size ≤ candidate.nanos ∨ IsTiny factor ∧ RoundsDown candidate.nanos) := by
  rw [stretch_lt_iff_count hpositive hsmall hle, count_lt_iff (grains_lt_unit hsmall),
    atLeast_cap candidate cap hsmall, decide_eq_false_iff_not, isTiny_iff hsmall,
    roundsDown_iff (nanos_le_two_pow candidate)]

/-- A shortened delay is what the way to binary64 and back leaves of the delay. -/
theorem nanos_stretch_of_lt (hpositive : factor.isNonPositive = false)
    (hsmall : factor.magnitude < 1023 * binade) (hle : candidate ≤ cap)
    (hlt : stretch candidate factor cap < candidate) :
    (stretch candidate factor cap).nanos = (ofNat candidate.nanos).toCount := by
  obtain ⟨hbelow, hcount⟩ := (stretch_lt_iff_count hpositive hsmall hle).mp hlt
  rw [nanos_stretch hpositive hsmall hle, if_neg hbelow, count_of_lt (grains_lt_unit hsmall) hcount,
    ofNat_eq (nanos_le_two_pow candidate)]
  rfl

end Stretch

/-! ## The main statement -/

/-- Jitter shortens the delay that follows an attempt exactly if three things come together: the factor
is above zero; the stretched delay does not reach the cap, as binary64 numbers; and the delay without
jitter has more than 64 bits, or it is rounded down in binary64 while the factor is at most `2 ^ -53`.
It is then what the way to binary64 and back leaves of the delay without jitter. In particular delays
of up to `2 ^ 53` nanoseconds are never shortened. -/
theorem delay_shortened_iff (options : Options) (attempt : Nat) :
    let plain := exponentialDelay attempt options.baseDelay options.maxDelay
    let factor := options.jitter.factor attempt
    let stretched := Binary64.mul (ofNat plain.nanos) (onePlus factor.value)
    (options.delayFor attempt < plain ↔
        ¬ IsIdle (options.jitter.raw attempt) ∧
          stretched.atLeast (ofNat options.maxDelay.nanos) = false ∧
          (UInt64.size ≤ plain.nanos ∨ IsTiny factor ∧ RoundsDown plain.nanos)) ∧
      (options.delayFor attempt < plain →
        (options.delayFor attempt).nanos = (ofNat plain.nanos).toCount) ∧
      (plain.nanos ≤ 2 ^ 53 → plain ≤ options.delayFor attempt) := by
  intro plain factor stretched
  have hle : plain ≤ options.maxDelay := exponentialDelay_le
  have hiff : options.delayFor attempt < plain ↔
      ¬ IsIdle (options.jitter.raw attempt) ∧
        stretched.atLeast (ofNat options.maxDelay.nanos) = false ∧
        (UInt64.size ≤ plain.nanos ∨ IsTiny factor ∧ RoundsDown plain.nanos) := by
    by_cases hidle : IsIdle (options.jitter.raw attempt)
    · have hsame : options.delayFor attempt = plain := delay_of_isIdle hidle
      constructor
      · intro hlt
        rw [hsame] at hlt
        exact absurd hlt (Nat.lt_irrefl plain.nanos)
      · intro h
        exact absurd hidle h.1
    · obtain ⟨hpositive, hsmall⟩ := sanitize_of_not_isIdle hidle
      exact (stretch_lt_iff hpositive hsmall hle).trans ⟨fun h => ⟨hidle, h⟩, fun h => h.2⟩
  refine ⟨hiff, ?_, ?_⟩
  · intro hlt
    obtain ⟨hpositive, hsmall⟩ := sanitize_of_not_isIdle (hiff.mp hlt).1
    exact nanos_stretch_of_lt hpositive hsmall hle hlt
  · intro hshort
    by_contra hnot
    obtain ⟨-, -, hlong | ⟨-, hdown⟩⟩ := hiff.mp (Nat.lt_of_not_le hnot)
    · have hsize : 2 ^ 53 < UInt64.size := by decide
      omega
    · rw [roundsDown_iff (nanos_le_two_pow plain), grainsOf_of_le hshort] at hdown
      exact absurd hdown (Nat.lt_irrefl _)

/-- Options for one delay, with a factor that does not change. -/
def constantly (factor : Binary64) (base cap : Duration) (h : base ≤ cap) : Options :=
  { Options.standard (.custom fun _ => factor) with
    baseDelay := base
    maxDelay := cap
    base_le := h }

/-- A delay of `2 ^ 53 + 1` nanoseconds loses its last bit to the least factor above zero. -/
example : (constantly ⟨1⟩ (.ofNanos 9007199254740993) (.ofNanos 18014398509481984) (by decide)
    |>.delayFor 1).nanos = 9007199254740992 := by decide +kernel

/-- Half of a delay is added to it, and less than a fifth of the delay is left. -/
theorem half_shortens :
    let options := constantly ⟨0x3fe0000000000000⟩ (.ofNanos 100000000000000000000)
      (.ofNanos 1000000000000000000000) (by decide)
    options.delayFor 1 < exponentialDelay 1 options.baseDelay options.maxDelay ∧
      (options.delayFor 1).nanos = 18446744073709551615 ∧
      (exponentialDelay 1 options.baseDelay options.maxDelay).nanos = 100000000000000000000 := by
  decide +kernel

end UnitOfWork.Retry
