import Mathlib.Data.Nat.Digits.Defs
import UnitOfWork.Text.Numeral

/-!
# What decimal numerals name

`Names` is the place-value reading of a numeral: one decimal digit or more, after a plus sign or
nothing, and the number is the sum of the digits by their places. `numeral_eq_ok_iff` says that a
numeral is read under a bound exactly when it names a number within it, and that this number is what
is read. The bound is checked at every digit; that is enough because a number never gets smaller by
another digit (`le_continuation`).
-/

set_option autoImplicit false

namespace UnitOfWork.Text

/-- An ASCII decimal digit. -/
def IsDecimalDigit (c : Char) : Prop := '0' ≤ c ∧ c ≤ '9'

/-- The number that a decimal digit stands for. -/
def digitValue (c : Char) : Nat := c.toNat - '0'.toNat

/-- The number that decimal digits stand for, the highest first. -/
def decimalValue (digits : List Char) : Nat := Nat.ofDigits 10 (digits.map digitValue).reverse

/-- A text names a number by decimal digits, after a plus sign or nothing. -/
inductive Names : List Char → Nat → Prop where
  | plain {digits : List Char} (nonempty : digits ≠ []) (decimal : ∀ c ∈ digits, IsDecimalDigit c) :
      Names digits (decimalValue digits)
  | signed {digits : List Char} (nonempty : digits ≠ [])
      (decimal : ∀ c ∈ digits, IsDecimalDigit c) : Names ('+' :: digits) (decimalValue digits)

/-- The digits read are the decimal digits, each with its value. -/
theorem digit?_eq_some_iff {c : Char} {d : Nat} :
    digit? c = some d ↔ IsDecimalDigit c ∧ d = digitValue c := by
  unfold digit? IsDecimalDigit digitValue
  split
  · next h => simp [h, eq_comm]
  · next h => simp [h]

/-- A plus sign is no digit. -/
theorem not_isDecimalDigit_plus : ¬IsDecimalDigit '+' := by
  unfold IsDecimalDigit
  decide

/-- A digit in front counts as many tens as there are digits behind it. -/
theorem decimalValue_cons (c : Char) (rest : List Char) :
    decimalValue (c :: rest) = digitValue c * 10 ^ rest.length + decimalValue rest := by
  unfold decimalValue
  rw [List.map_cons, Nat.ofDigits_reverse_cons, List.length_map]
  ring

/-- The number that `value` becomes when the digits of a text follow it. -/
def continuation (value : Nat) (s : List Char) : Nat := value * 10 ^ s.length + decimalValue s

/-- One digit more makes ten times the number and the digit. -/
theorem continuation_cons (value : Nat) (c : Char) (rest : List Char) :
    continuation value (c :: rest) = continuation (value * 10 + digitValue c) rest := by
  unfold continuation
  rw [decimalValue_cons, List.length_cons, pow_succ]
  ring

@[simp]
theorem continuation_nil (value : Nat) : continuation value [] = value :=
  Nat.mul_one value

/-- After nothing, the digits make their own number. -/
@[simp]
theorem continuation_zero (s : List Char) : continuation 0 s = decimalValue s := by
  unfold continuation
  rw [Nat.zero_mul, Nat.zero_add]

/-- A number does not get smaller by more digits. -/
theorem le_continuation (value : Nat) (s : List Char) : value ≤ continuation value s :=
  Nat.le_add_right_of_le (Nat.le_mul_of_pos_right value (Nat.pow_pos (by decide)))

/-- Digits are read under a bound exactly when all of them together stay within it. -/
theorem continued_eq_ok_iff {limit value n : Nat} {s : List Char} (hvalue : value ≤ limit) :
    Numeral.continued limit value s = .ok n ↔
      (∀ c ∈ s, IsDecimalDigit c) ∧ n = continuation value s ∧ n ≤ limit := by
  induction s generalizing value with
  | nil =>
    rw [Numeral.continued, continuation_nil]
    constructor
    · intro h
      cases h
      exact ⟨fun c hc => (nomatch hc), rfl, hvalue⟩
    · rintro ⟨-, rfl, -⟩
      rfl
  | cons c rest ih =>
    rw [Numeral.continued, continuation_cons, List.forall_mem_cons]
    cases hdigit : digit? c with
    | none =>
      have hno : ¬IsDecimalDigit c := by
        intro h
        rw [digit?_eq_some_iff.mpr ⟨h, rfl⟩] at hdigit
        cases hdigit
      simp [hno]
    | some d =>
      obtain ⟨hc, rfl⟩ := digit?_eq_some_iff.mp hdigit
      by_cases hbound : value * 10 + digitValue c ≤ limit
      · simp only [if_pos hbound, ih hbound, hc, true_and]
      · -- What is too large already stays so, whatever follows.
        have hgrows := le_continuation (value * 10 + digitValue c) rest
        simp only [if_neg hbound, reduceCtorEq, false_iff]
        rintro ⟨-, rfl, hn⟩
        exact hbound (hgrows.trans hn)

/-- Behind a plus sign there are digits only, at least one. -/
theorem names_plus_iff {rest : List Char} {n : Nat} :
    Names ('+' :: rest) n ↔
      rest ≠ [] ∧ (∀ c ∈ rest, IsDecimalDigit c) ∧ n = decimalValue rest := by
  constructor
  · intro h
    cases h with
    | plain nonempty decimal => exact absurd (decimal '+' List.mem_cons_self) not_isDecimalDigit_plus
    | signed nonempty decimal => exact ⟨nonempty, decimal, rfl⟩
  · rintro ⟨nonempty, decimal, rfl⟩
    exact .signed nonempty decimal

/-- Without a plus sign there are digits only. -/
theorem names_iff {c : Char} (hc : c ≠ '+') {rest : List Char} {n : Nat} :
    Names (c :: rest) n ↔
      (∀ d ∈ c :: rest, IsDecimalDigit d) ∧ n = decimalValue (c :: rest) := by
  constructor
  · intro h
    cases h with
    | plain nonempty decimal => exact ⟨decimal, rfl⟩
    | signed => exact absurd rfl hc
  · rintro ⟨decimal, rfl⟩
    exact .plain (List.cons_ne_nil c rest) decimal

/-- A text is read as a number exactly when it names that number, and the number is within the
bound. -/
theorem numeral_eq_ok_iff {limit n : Nat} {s : List Char} :
    numeral limit s = .ok n ↔ Names s n ∧ n ≤ limit := by
  unfold numeral
  split
  · simp only [reduceCtorEq, false_iff]
    rintro ⟨h, -⟩
    cases h with
    | plain nonempty => exact nonempty rfl
  · simp [names_plus_iff]
  · next rest hrest =>
    rw [names_plus_iff, continued_eq_ok_iff (Nat.zero_le limit), continuation_zero]
    have hne : rest ≠ [] := by
      rintro rfl
      exact hrest rfl
    simp only [hne, ne_eq, not_false_eq_true, true_and, and_assoc]
  · next hnil _ hplus =>
    cases s with
    | nil => exact absurd rfl hnil
    | cons c rest =>
      have hc : c ≠ '+' := by
        rintro rfl
        exact hplus rest rfl
      rw [names_iff hc, continued_eq_ok_iff (Nat.zero_le limit), continuation_zero, and_assoc]

end UnitOfWork.Text
