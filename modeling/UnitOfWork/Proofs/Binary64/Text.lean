import UnitOfWork.Binary64.Text
import UnitOfWork.Proofs.Binary64.Counts
import UnitOfWork.Proofs.Text.Radix

/-!
# Written words read back

A word is written with sixteen digits and read back as it was (`ofText?_text`), infinities, signed zeros
and payloads included. A word is a proper fraction when its sign bit is clear and its magnitude is below
that of one (`isProperFraction_iff`): magnitudes are ordered as the values they stand for.
-/

set_option autoImplicit false

namespace UnitOfWork.Binary64

/-! ## Digits -/

/-- No word needs more than sixteen digits, so the zeros in front make up the rest. -/
theorem length_text (x : Binary64) : x.text.toList.length = 16 := by
  have hdigits : (Nat.toDigits 16 x.bits.toNat).length ≤ 16 := by
    rw [Nat.length_toDigits_le_iff (by decide) (by decide)]
    exact x.bits.isLt
  simp only [text, String.toList_ofList, List.length_append, List.length_replicate]
  omega

/-- What is written for a word is read as the same word. -/
theorem ofText?_text (x : Binary64) : ofText? x.text = some x := by
  have hread (zeros n : Nat) :
      Text.fixed? 16 (List.replicate zeros '0' ++ Nat.toDigits 16 n) = some n :=
    Text.fixed?_toDigits (by decide) (by decide) zeros n
  simp only [text, ofText?, String.toList_ofList, hread, Option.map_some, BitVec.ofNat_toNat,
    BitVec.setWidth_eq]

/-! ## Fractions -/

/-- From one on a word has as many grains as one or more. -/
theorem unit_le_grains {magnitude : Nat} (h : 1023 * binade ≤ magnitude) : unit ≤ grains magnitude := by
  have hexponent : 1023 ≤ magnitude / binade := (Nat.le_div_iff_mul_le (by decide)).mpr h
  have hbinade : binade = 2 ^ 52 := Nat.one_shiftLeft 52
  unfold grains
  dsimp only
  rw [if_neg (by omega), Nat.shiftLeft_eq, unit_eq, unitPlace, Nat.pow_add, hbinade]
  apply Nat.mul_le_mul (Nat.le_add_right _ _)
  exact Nat.pow_le_pow_right (by decide) (show ulpPlace ≤ _ by unfold ulpPlace; omega)

/-- One is a count that is a value of the format already. -/
theorem ofNat_one : ofNat 1 = .finite unit := by
  rw [ofNat_eq (by decide), grainsOf_of_le (by decide), Nat.one_mul]

/-- The proper fractions are the words with a clear sign bit and a magnitude below that of one. -/
theorem isProperFraction_iff {x : Binary64} :
    x.isProperFraction = true ↔ x.isNegative = false ∧ x.magnitude < 1023 * binade := by
  have hone : 1023 * binade < infiniteMagnitude := by decide
  simp only [isProperFraction, Bool.and_eq_true, Bool.not_eq_true', ofNat_one]
  constructor
  · rintro ⟨⟨hnumber, hsign⟩, hbelow⟩
    refine ⟨hsign, Nat.lt_of_not_le fun hle => ?_⟩
    -- A number from one on, infinity included, compares as at least one.
    rw [value, hnumber, if_neg (by decide)] at hbelow
    split at hbelow
    · cases hbelow
    · simp only [Result.atLeast, decide_eq_false_iff_not] at hbelow
      exact hbelow (unit_le_grains hle)
  · rintro ⟨hsign, hlt⟩
    have hgrains := grains_lt_unit hlt
    refine ⟨⟨?_, hsign⟩, ?_⟩
    · simp only [isNaN, decide_eq_false_iff_not]
      omega
    · rw [value_of_lt_one hlt]
      simp only [Result.atLeast, decide_eq_false_iff_not]
      omega

end UnitOfWork.Binary64
