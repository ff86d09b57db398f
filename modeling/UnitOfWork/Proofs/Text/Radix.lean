import UnitOfWork.Text.Radix

/-!
# Digits read back

A number written in a radix up to sixteen is read back from its digits, with zeros in front or without.
-/

set_option autoImplicit false

namespace UnitOfWork.Text

variable {radix : Nat}

/-- A digit is read as the number below the radix that it was written for. -/
theorem digitIn?_digitChar {d : Nat} (hradix : radix ≤ 16) (hd : d < radix) :
    digitIn? radix d.digitChar = some d := by
  have hread : ∀ d < 16, hexDigit? d.digitChar = some d := by decide
  rw [digitIn?, hread d (by omega), Option.filter_some, if_pos (decide_eq_true hd)]

theorem valueIn_concat (digits : List Nat) (d : Nat) :
    valueIn radix (digits ++ [d]) = valueIn radix digits * radix + d := by
  rw [valueIn, List.foldl_append]
  rfl

/-- Zeros in front change nothing. -/
theorem valueIn_zeros (k : Nat) (digits : List Nat) :
    valueIn radix (List.replicate k 0 ++ digits) = valueIn radix digits := by
  induction k with
  | zero => rfl
  | succ k ih =>
    rw [List.replicate_succ, List.cons_append, valueIn, List.foldl_cons, Nat.zero_mul]
    exact ih

/-- The digits of a number, by induction on the number without its last digit. -/
theorem mapM_toDigits (hradix : 1 < radix) (hle : radix ≤ 16) (n : Nat) :
    ∃ digits, (Nat.toDigits radix n).mapM (digitIn? radix) = some digits ∧
      valueIn radix digits = n := by
  induction n using Nat.strongRecOn with
  | ind n ih =>
    rw [Nat.toDigits_eq_if hradix]
    split
    · next hlt =>
      refine ⟨[n], ?_, by simp [valueIn]⟩
      simp [digitIn?_digitChar hle hlt]
    · next hge =>
      obtain ⟨digits, hread, hvalue⟩ := ih (n / radix) (Nat.div_lt_self (by omega) hradix)
      have hlast : n % radix < radix := Nat.mod_lt n (by omega)
      refine ⟨digits ++ [n % radix], ?_, ?_⟩
      · simp [List.mapM_append, hread, digitIn?_digitChar hle hlast]
      · rw [valueIn_concat, hvalue, Nat.div_add_mod']

/-- A number that is written in a radix is read back, with zeros in front or without. -/
theorem fixed?_toDigits (hradix : 1 < radix) (hle : radix ≤ 16) (k n : Nat) :
    fixed? radix (List.replicate k '0' ++ Nat.toDigits radix n) = some n := by
  obtain ⟨digits, hread, hvalue⟩ := mapM_toDigits hradix hle n
  have hzero : digitIn? radix '0' = some 0 := digitIn?_digitChar hle (Nat.zero_lt_of_lt hradix)
  have hzeros : (List.replicate k '0').mapM (digitIn? radix) = some (List.replicate k 0) := by
    induction k with
    | zero => rfl
    | succ k ih => simp [List.replicate_succ, ih, hzero]
  have hsome : (List.replicate k '0' ++ Nat.toDigits radix n).isEmpty = false := by
    simp [Nat.toDigits_ne_nil]
  simp [fixed?, hsome, List.mapM_append, hread, hzeros, valueIn_zeros, hvalue]

end UnitOfWork.Text
