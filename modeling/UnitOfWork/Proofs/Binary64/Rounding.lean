import Mathlib.Tactic.Positivity
import Mathlib.Tactic.Ring
import UnitOfWork.Binary64

/-!
# Rounding keeps its place

A value of the format has 53 significant bits. Rounding never carries a number past a value of the
format (`le_rounded`, `rounded_le`), so it leaves such values where they are (`rounded_of_isValue`), and
what it returns is one (`isValue_rounded`). These four facts are all that the later modules know of
rounding, but for one: a number that was rounded down lies below the next value (`exists_next`).

Sizes are in grains, and whether a rounding leaves the format at the top is a question for the end:
`rounded` is the rounding before it is asked.
-/

set_option autoImplicit false

namespace UnitOfWork.Binary64

/-! ## The nearest whole number -/

section Nearest

variable {n d k : Nat}

/-- The nearest whole number is the quotient, where the rest is at most half, or the next one, where
it is at least half. -/
theorem nearest_cases (n d : Nat) :
    (nearest n d = n / d ∧ 2 * (n % d) ≤ d) ∨ (nearest n d = n / d + 1 ∧ d ≤ 2 * (n % d)) := by
  unfold nearest
  dsimp only
  split
  · left; omega
  · split
    · right; omega
    · split
      · left; omega
      · right; omega

/-- A whole number below `n / d` stays below. -/
theorem le_nearest (hd : 0 < d) (h : k * d ≤ n) : k ≤ nearest n d := by
  have hk : k ≤ n / d := (Nat.le_div_iff_mul_le hd).mpr h
  rcases nearest_cases n d with ⟨hn, -⟩ | ⟨hn, -⟩ <;> omega

/-- A whole number above `n / d` stays above. -/
theorem nearest_le (hd : 0 < d) (h : n ≤ k * d) : nearest n d ≤ k := by
  have hdiv := Nat.div_add_mod' n d
  rcases nearest_cases n d with ⟨hn, -⟩ | ⟨hn, hr⟩
  · rw [hn]
    exact Nat.div_le_of_le_mul (Nat.mul_comm k d ▸ h)
  · -- Rounded up: the remainder is not zero, so `k` is past the quotient.
    rw [hn]
    apply Nat.succ_le_of_lt
    rw [Nat.div_lt_iff_lt_mul hd]
    by_cases heq : n = k * d
    · rw [heq, Nat.mul_mod_left] at hr
      omega
    · omega

/-- Nothing lies as far as the number that follows its nearest one. -/
theorem lt_nearest_succ_mul (hd : 0 < d) : n < (nearest n d + 1) * d := by
  rw [← Nat.div_lt_iff_lt_mul hd]
  rcases nearest_cases n d with ⟨hn, -⟩ | ⟨hn, -⟩ <;> omega

end Nearest

/-! ## Values of the format -/

/-- A number of grains with 53 significant bits. -/
def IsValue (g : Nat) : Prop := ∃ m s, m ≤ 2 ^ 53 ∧ g = m * 2 ^ s

/-- Powers of two have one significant bit. -/
theorem isValue_two_pow (s : Nat) : IsValue (2 ^ s) := ⟨1, s, by decide, (Nat.one_mul _).symm⟩

/-- The bits by which a quotient is too long for the format. -/
def spare (q : Nat) : Nat := q.log2 - 52

/-- Without its spare bits a quotient has at most 53 bits. -/
theorem lt_two_pow_spare (q : Nat) : q < 2 ^ (53 + spare q) := by
  apply Nat.lt_of_lt_of_le (Nat.lt_log2_self (n := q))
  apply Nat.pow_le_pow_right (by decide)
  unfold spare
  omega

/-- Without its spare bits a long quotient has 53 bits in full. -/
theorem two_pow_spare_le {q : Nat} (h : 2 ^ 52 ≤ q) : 2 ^ (52 + spare q) ≤ q := by
  have hq : q ≠ 0 := by omega
  have hlog : 52 ≤ q.log2 := (Nat.le_log2 hq).mpr h
  have hs : 52 + spare q = q.log2 := by
    unfold spare
    omega
  rw [hs]
  exact Nat.log2_self_le hq

/-- A quotient that is too long has more than 52 bits. -/
theorem le_of_spare_pos {q : Nat} (h : 0 < spare q) : 2 ^ 52 ≤ q := by
  unfold spare at h
  have hq : q ≠ 0 := by
    rintro rfl
    simp at h
  exact (Nat.le_log2 hq).mp (by omega)

/-- A value finer than the last place of a long quotient is no longer than it. -/
theorem mul_two_pow_le_of_lt_spare {m s q : Nat} (hm : m ≤ 2 ^ 53) (hs : s < spare q) :
    m * 2 ^ s ≤ 2 ^ 52 * 2 ^ spare q := by
  calc m * 2 ^ s ≤ 2 ^ 53 * 2 ^ s := Nat.mul_le_mul_right _ hm
    _ = 2 ^ (53 + s) := (Nat.pow_add ..).symm
    _ ≤ 2 ^ (52 + spare q) := Nat.pow_le_pow_right (by decide) (by omega)
    _ = 2 ^ 52 * 2 ^ spare q := Nat.pow_add ..

/-! ## Rounding -/

/-- The value nearest to `n / d` grains, were there no greatest one. -/
def rounded (n d : Nat) : Nat := nearest n (d * 2 ^ spare (n / d)) * 2 ^ spare (n / d)

/-- The rounding leaves the format only by what it comes to. -/
theorem round_eq (n d : Nat) :
    round n d = if rounded n d < overflow then .finite (rounded n d) else .infinite := by
  simp only [round, rounded, spare, Nat.shiftLeft_eq]
  rfl

section Rounded

variable {n d g : Nat}

/-- The unit in the last place is no more than the quotient allows. -/
theorem mul_two_pow_spare_le (h : 2 ^ 52 ≤ n / d) :
    2 ^ 52 * (d * 2 ^ spare (n / d)) ≤ n := by
  calc 2 ^ 52 * (d * 2 ^ spare (n / d)) = 2 ^ (52 + spare (n / d)) * d := by ring
    _ ≤ n / d * d := Nat.mul_le_mul_right d (two_pow_spare_le h)
    _ ≤ n := Nat.div_mul_le_self n d

theorem lt_mul_two_pow_spare (hd : 0 < d) : n < 2 ^ 53 * (d * 2 ^ spare (n / d)) := by
  calc n < 2 ^ (53 + spare (n / d)) * d := by
        rw [← Nat.div_lt_iff_lt_mul hd]
        exact lt_two_pow_spare (n / d)
    _ = 2 ^ 53 * (d * 2 ^ spare (n / d)) := by ring

/-- A rounding is a value: what it keeps of the quotient has 53 bits. -/
theorem isValue_rounded (n : Nat) (hd : 0 < d) : IsValue (rounded n d) :=
  ⟨_, _, nearest_le (by positivity) (lt_mul_two_pow_spare hd).le, rfl⟩

/-- Rounding does not carry a number below a value. -/
theorem le_rounded (hd : 0 < d) (hg : IsValue g) (h : g * d ≤ n) : g ≤ rounded n d := by
  obtain ⟨m, s, hm, rfl⟩ := hg
  unfold rounded
  by_cases hs : spare (n / d) ≤ s
  · obtain ⟨t, rfl⟩ := Nat.exists_eq_add_of_le hs
    have hfits : m * 2 ^ t * (d * 2 ^ spare (n / d)) ≤ n := by
      calc m * 2 ^ t * (d * 2 ^ spare (n / d)) = m * 2 ^ (spare (n / d) + t) * d := by ring
        _ ≤ n := h
    calc m * 2 ^ (spare (n / d) + t) = m * 2 ^ t * 2 ^ spare (n / d) := by ring
      _ ≤ _ := Nat.mul_le_mul_right _ (le_nearest (by positivity) hfits)
  · -- The value is finer than the last place, so the least long quotient is past it already.
    have hlt : s < spare (n / d) := Nat.lt_of_not_le hs
    have hlong : 2 ^ 52 ≤ n / d := le_of_spare_pos (Nat.zero_lt_of_lt hlt)
    calc m * 2 ^ s ≤ 2 ^ 52 * 2 ^ spare (n / d) := mul_two_pow_le_of_lt_spare hm hlt
      _ ≤ _ := Nat.mul_le_mul_right _ (le_nearest (by positivity) (mul_two_pow_spare_le hlong))

/-- Rounding does not carry a number above a value. -/
theorem rounded_le (hd : 0 < d) (hg : IsValue g) (h : n ≤ g * d) : rounded n d ≤ g := by
  obtain ⟨m, s, hm, rfl⟩ := hg
  unfold rounded
  by_cases hs : spare (n / d) ≤ s
  · obtain ⟨t, rfl⟩ := Nat.exists_eq_add_of_le hs
    have hfits : n ≤ m * 2 ^ t * (d * 2 ^ spare (n / d)) := by
      calc n ≤ m * 2 ^ (spare (n / d) + t) * d := h
        _ = m * 2 ^ t * (d * 2 ^ spare (n / d)) := by ring
    calc _ ≤ m * 2 ^ t * 2 ^ spare (n / d) :=
          Nat.mul_le_mul_right _ (nearest_le (by positivity) hfits)
      _ = m * 2 ^ (spare (n / d) + t) := by ring
  · -- Only the least long quotient itself leaves room for a finer value above.
    have hlt : s < spare (n / d) := Nat.lt_of_not_le hs
    have hlong : 2 ^ 52 ≤ n / d := le_of_spare_pos (Nat.zero_lt_of_lt hlt)
    have hle := mul_two_pow_le_of_lt_spare hm hlt
    have hfits : n ≤ 2 ^ 52 * (d * 2 ^ spare (n / d)) := by
      calc n ≤ m * 2 ^ s * d := h
        _ ≤ 2 ^ 52 * 2 ^ spare (n / d) * d := Nat.mul_le_mul_right d hle
        _ = 2 ^ 52 * (d * 2 ^ spare (n / d)) := by ring
    have hquotient : 2 ^ 52 * 2 ^ spare (n / d) ≤ m * 2 ^ s := by
      apply Nat.le_of_mul_le_mul_right _ hd
      calc 2 ^ 52 * 2 ^ spare (n / d) * d = 2 ^ 52 * (d * 2 ^ spare (n / d)) := by ring
        _ ≤ n := mul_two_pow_spare_le hlong
        _ ≤ m * 2 ^ s * d := h
    calc _ ≤ 2 ^ 52 * 2 ^ spare (n / d) :=
          Nat.mul_le_mul_right _ (nearest_le (by positivity) hfits)
      _ ≤ m * 2 ^ s := hquotient

/-- A value is its own rounding. -/
theorem rounded_of_isValue (hd : 0 < d) (hg : IsValue g) : rounded (g * d) d = g :=
  Nat.le_antisymm (rounded_le hd hg (Nat.le_refl _)) (le_rounded hd hg (Nat.le_refl _))

/-- A long quotient that was rounded down lies below the next value, one unit in the last place
further. -/
theorem exists_next (hd : 0 < d) (hlong : 2 ^ 52 ≤ n / d) (hdown : rounded n d * d < n) :
    ∃ u, 2 ^ 52 * u ≤ rounded n d ∧ IsValue (rounded n d + u) ∧ n ≤ (rounded n d + u) * d := by
  have hpos : 0 < d * 2 ^ spare (n / d) := by positivity
  refine ⟨2 ^ spare (n / d), ?_, ⟨nearest n (d * 2 ^ spare (n / d)) + 1, spare (n / d), ?_, ?_⟩, ?_⟩
  · exact Nat.mul_le_mul_right _ (le_nearest hpos (mul_two_pow_spare_le hlong))
  · -- The greatest number of significant bits is past every long quotient, so it is no rounding down.
    apply Nat.succ_le_of_lt
    apply Nat.lt_of_mul_lt_mul_right (a := d * 2 ^ spare (n / d))
    calc nearest n (d * 2 ^ spare (n / d)) * (d * 2 ^ spare (n / d)) = rounded n d * d := by
          unfold rounded
          ring
      _ < n := hdown
      _ < 2 ^ 53 * (d * 2 ^ spare (n / d)) := lt_mul_two_pow_spare hd
  · unfold rounded
    ring
  · calc n ≤ (nearest n (d * 2 ^ spare (n / d)) + 1) * (d * 2 ^ spare (n / d)) :=
          (lt_nearest_succ_mul hpos).le
      _ = (rounded n d + 2 ^ spare (n / d)) * d := by
          unfold rounded
          ring

end Rounded

end UnitOfWork.Binary64
