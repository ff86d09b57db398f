import UnitOfWork.Proofs.Binary64.Rounding

/-!
# Counts and factors as binary64 values

A whole number goes to the nearest value of the format, and one plus a factor does too. Counts up to
`2 ^ 53` are values already; a greater one may be rounded to either side. A factor below one is lost to
the rounding of the sum exactly when it is at most `2 ^ -53`, and else the sum is at least one place past
one (`rounded_unit_add_cases`).

A value below the rounding of a count is not past the count itself (`div_unit_le`): the rounding may have
gone up, but it went no further than to the next value.
-/

set_option autoImplicit false

namespace UnitOfWork.Binary64

/-! ## Powers of two

The exponents have names, so that no step of a proof writes out a power of a thousand bits. -/

/-- The place of the last bit of one, in grains. -/
def ulpPlace : Nat := 1022

/-- The place of one, in grains. -/
def unitPlace : Nat := 52 + ulpPlace

/-- The first power of two past the format. -/
def pastExponent : Nat := 1024

/-- Grains from one to the next value. -/
def ulp : Nat := 2 ^ ulpPlace

/-- One is a power of two in grains. -/
theorem unit_eq : unit = 2 ^ unitPlace := Nat.one_shiftLeft unitPlace

/-- One is `2 ^ 52` of its own last places. -/
theorem unit_eq_ulp : unit = 2 ^ 52 * ulp := by
  rw [unit_eq, unitPlace, ulp, Nat.pow_add]

theorem two_mul_unit : 2 * unit = 2 ^ (unitPlace + 1) := by
  rw [unit_eq, Nat.pow_succ']

/-- The format ends at the power of two with the exponent `pastExponent`. -/
theorem overflow_eq : overflow = 2 ^ pastExponent * unit := by
  have h : overflow = 2 ^ (pastExponent + unitPlace) := Nat.one_shiftLeft (pastExponent + unitPlace)
  rw [h, unit_eq, Nat.pow_add]

theorem ulp_pos : 0 < ulp := Nat.two_pow_pos ulpPlace

theorem unit_pos : 0 < unit := by
  rw [unit_eq]
  exact Nat.two_pow_pos unitPlace

/-! ## Counts -/

/-- The rounding of a count, in grains. -/
def grainsOf (n : Nat) : Nat := rounded (n * unit) 1

section Counts

variable {n g : Nat}

/-- The rounding of a count is a value of the format. -/
theorem isValue_grainsOf (n : Nat) : IsValue (grainsOf n) := isValue_rounded _ Nat.one_pos

/-- A value that is no more than a count is no more than its rounding. -/
theorem le_grainsOf (hg : IsValue g) (h : g ≤ n * unit) : g ≤ grainsOf n :=
  le_rounded Nat.one_pos hg (by rwa [Nat.mul_one])

/-- A value that is no less than a count is no less than its rounding. -/
theorem grainsOf_le (hg : IsValue g) (h : n * unit ≤ g) : grainsOf n ≤ g :=
  rounded_le Nat.one_pos hg (by rwa [Nat.mul_one])

/-- Counts of 53 bits are values of the format. -/
theorem isValue_mul_unit (h : n ≤ 2 ^ 53) : IsValue (n * unit) :=
  ⟨n, unitPlace, h, by rw [unit_eq]⟩

theorem isValue_two_pow_mul_unit (s : Nat) : IsValue (2 ^ s * unit) := by
  rw [unit_eq, ← Nat.pow_add]
  exact isValue_two_pow _

/-- Short counts are kept. -/
theorem grainsOf_of_le (h : n ≤ 2 ^ 53) : grainsOf n = n * unit := by
  have hrounded := rounded_of_isValue Nat.one_pos (isValue_mul_unit h)
  rwa [Nat.mul_one] at hrounded

/-- A value below the rounding of a count has no more whole units than the count. -/
theorem div_unit_le (hg : IsValue g) (h : g < grainsOf n) : g / unit ≤ n := by
  apply Nat.div_le_of_le_mul
  rw [Nat.mul_comm]
  by_contra hpast
  have hle : grainsOf n ≤ g := grainsOf_le hg (Nat.le_of_not_le hpast)
  omega

/-- What is no greater than a count of 128 bits is far from the end of the format. -/
theorem lt_overflow_of_le {s : Nat} (hs : s ≤ 128) (h : g ≤ 2 ^ s * unit) : g < overflow := by
  have hpast : s < pastExponent := Nat.lt_of_le_of_lt hs (by decide)
  calc g ≤ 2 ^ s * unit := h
    _ < 2 ^ pastExponent * unit :=
      Nat.mul_lt_mul_of_pos_right (Nat.pow_lt_pow_right (by decide) hpast) unit_pos
    _ = overflow := overflow_eq.symm

/-- Counts of 128 bits do not leave the format. -/
theorem ofNat_eq (h : n ≤ 2 ^ 128) : ofNat n = .finite (grainsOf n) := by
  have hle : grainsOf n ≤ 2 ^ 128 * unit :=
    grainsOf_le (isValue_two_pow_mul_unit 128) (Nat.mul_le_mul_right unit h)
  have hlt : rounded (n * unit) 1 < overflow := lt_overflow_of_le (Nat.le_refl 128) hle
  rw [ofNat, round_eq, if_pos hlt, grainsOf]

/-- A count that was rounded down lies below the next value, one place further. -/
theorem exists_next_grainsOf (hdown : grainsOf n < n * unit) :
    ∃ u, 2 ^ 52 * u ≤ grainsOf n ∧ IsValue (grainsOf n + u) ∧ n * unit ≤ grainsOf n + u := by
  have hn : 0 < n := by
    by_contra h
    obtain rfl : n = 0 := by omega
    omega
  have hlong : 2 ^ 52 ≤ n * unit / 1 := by
    have hulp := ulp_pos
    rw [Nat.div_one]
    calc 2 ^ 52 ≤ 2 ^ 52 * ulp := Nat.le_mul_of_pos_right _ hulp
      _ = unit := unit_eq_ulp.symm
      _ ≤ n * unit := Nat.le_mul_of_pos_left _ hn
  obtain ⟨u, hu, hvalue, hnext⟩ := exists_next Nat.one_pos hlong (by rwa [Nat.mul_one])
  exact ⟨u, hu, hvalue, by rwa [Nat.mul_one] at hnext⟩

end Counts

/-! ## One plus a factor -/

section Factors

variable {g : Nat}

/-- The sum of one and a factor has its last place where one has it. -/
theorem spare_unit_add (hg : g < unit) : spare (unit + g) = ulpPlace := by
  have hunit := unit_pos
  have hlog : (unit + g).log2 = unitPlace := by
    rw [Nat.log2_eq_iff (by omega), ← unit_eq, ← two_mul_unit]
    omega
  rw [spare, hlog, unitPlace, Nat.add_sub_cancel_left]

/-- The sum of one and a factor is rounded to the place of one. -/
theorem rounded_unit_add (hg : g < unit) : rounded (unit + g) 1 = nearest (unit + g) ulp * ulp := by
  unfold rounded
  rw [Nat.div_one, spare_unit_add hg, Nat.one_mul, ulp]

/-- A factor that is lost to the rounding when one is added: at most `2 ^ -53`. -/
def Negligible (g : Nat) : Prop := 2 ^ 53 * g ≤ unit

/-- A factor is lost when it is at most half of the last place of one. -/
theorem negligible_iff : Negligible g ↔ 2 * g ≤ ulp := by
  unfold Negligible
  rw [unit_eq_ulp]
  omega

/-- One is an even number of places; a factor below one place is what is left over. -/
theorem div_mod_unit_add (hlt : g < ulp) : (unit + g) / ulp = 2 ^ 52 ∧ (unit + g) % ulp = g := by
  rw [unit_eq_ulp, Nat.mul_comm]
  constructor
  · rw [Nat.mul_add_div ulp_pos, Nat.div_eq_of_lt hlt, Nat.add_zero]
  · rw [Nat.mul_add_mod, Nat.mod_eq_of_lt hlt]

/-- One plus a negligible factor is rounded to one, the tie included. -/
theorem rounded_unit_add_of_negligible (h : Negligible g) : rounded (unit + g) 1 = unit := by
  have hulp := ulp_pos
  have hunit := unit_eq_ulp
  have hle := negligible_iff.mp h
  obtain ⟨hdiv, hmod⟩ := div_mod_unit_add (g := g) (by omega)
  have hplaces : nearest (unit + g) ulp = 2 ^ 52 := by
    unfold nearest
    simp only [hdiv, hmod]
    split
    · rfl
    · -- Half a place past one is a tie, and one is the even neighbour.
      rw [if_neg (by omega), if_pos (by decide)]
  rw [rounded_unit_add (by omega), hplaces, ← hunit]

/-- Any other factor brings the sum at least one place past one. -/
theorem le_rounded_unit_add (hg : g < unit) (h : ¬ Negligible g) :
    unit + ulp ≤ rounded (unit + g) 1 := by
  have hunit := unit_eq_ulp
  rw [negligible_iff] at h
  have hplaces : 2 ^ 52 + 1 ≤ nearest (unit + g) ulp := by
    by_cases hlt : g < ulp
    · obtain ⟨hdiv, hmod⟩ := div_mod_unit_add hlt
      rcases nearest_cases (unit + g) ulp with ⟨-, hr⟩ | ⟨hn, -⟩ <;> omega
    · apply le_nearest ulp_pos
      omega
  calc unit + ulp = (2 ^ 52 + 1) * ulp := by rw [hunit, Nat.succ_mul]
    _ ≤ nearest (unit + g) ulp * ulp := Nat.mul_le_mul_right ulp hplaces
    _ = rounded (unit + g) 1 := (rounded_unit_add hg).symm

/-- The sum of one and a factor is one, for the negligible factors, or at least one place past it. -/
theorem rounded_unit_add_cases (hg : g < unit) :
    (Negligible g ∧ rounded (unit + g) 1 = unit) ∨
      (¬ Negligible g ∧ unit + ulp ≤ rounded (unit + g) 1) := by
  by_cases h : Negligible g
  · exact .inl ⟨h, rounded_unit_add_of_negligible h⟩
  · exact .inr ⟨h, le_rounded_unit_add hg h⟩

/-- One plus a factor below one does not leave the format. -/
theorem onePlus_eq (hg : g < unit) : onePlus (.finite g) = .finite (rounded (unit + g) 1) := by
  have hle : rounded (unit + g) 1 ≤ 2 ^ 1 * unit := by
    apply rounded_le Nat.one_pos (isValue_two_pow_mul_unit 1)
    omega
  have hlt : rounded (unit + g) 1 < overflow := lt_overflow_of_le (by decide) hle
  rw [onePlus, round_eq, if_pos hlt]

/-- A word below one has fewer grains than one. -/
theorem grains_lt_unit {magnitude : Nat} (h : magnitude < 1023 * binade) :
    grains magnitude < unit := by
  have hbinade : binade = 2 ^ 52 := Nat.one_shiftLeft 52
  have hexponent : magnitude / binade < 1023 := (Nat.div_lt_iff_lt_mul (by decide)).mpr h
  have hfraction : magnitude % binade < 2 ^ 52 := hbinade ▸ Nat.mod_lt magnitude (by decide)
  have hplace : unitPlace = 1074 := rfl
  unfold grains
  dsimp only
  rw [unit_eq]
  split
  · exact Nat.lt_of_lt_of_le hfraction (Nat.pow_le_pow_right (by decide) (by omega))
  · rw [Nat.shiftLeft_eq]
    calc (binade + magnitude % binade) * 2 ^ (magnitude / binade - 1)
        < 2 ^ 53 * 2 ^ (magnitude / binade - 1) :=
          Nat.mul_lt_mul_of_pos_right (by omega) (Nat.two_pow_pos _)
      _ = 2 ^ (53 + (magnitude / binade - 1)) := (Nat.pow_add ..).symm
      _ ≤ 2 ^ unitPlace := Nat.pow_le_pow_right (by decide) (by omega)

/-- The value of a word below one. -/
theorem value_of_lt_one {x : Binary64} (h : x.magnitude < 1023 * binade) :
    x.value = .finite (grains x.magnitude) := by
  have hbelow : x.magnitude < infiniteMagnitude := Nat.lt_trans h (by decide)
  have hnumber : x.isNaN = false := by
    simp only [isNaN, decide_eq_false_iff_not]
    omega
  rw [value, hnumber, if_neg (by decide), if_neg (by omega)]

end Factors

/-! ## Products -/

/-- A finite result of a rounding is a value of the format. -/
theorem isValue_of_round {n d g : Nat} (hd : 0 < d) (h : round n d = .finite g) : IsValue g := by
  rw [round_eq] at h
  split at h
  · cases h
    exact isValue_rounded n hd
  · cases h

/-- A finite product is a value of the format: both factors were finite, and it was rounded. -/
theorem isValue_of_mul {a b : Result} {g : Nat} (h : mul a b = .finite g) : IsValue g := by
  unfold mul at h
  split at h
  · exact isValue_of_round unit_pos h
  · split at h <;> cases h
  · split at h <;> cases h
  · cases h
  · cases h
  · cases h

end UnitOfWork.Binary64
