import Mathlib.Data.List.Forall2
import UnitOfWork.Text.Blank

/-!
# Letters, case aside

Case is that of ASCII letters throughout: two characters are the same letter when they are equal, or
when one is the capital of the other. Texts are compared by making all their letters small, which is
the comparison of their characters one by one.
-/

set_option autoImplicit false

namespace UnitOfWork.Text

/-- The same character, but for the case of an ASCII letter. -/
def SameLetter (a b : Char) : Prop :=
  a = b ∨ a.isUpper = true ∧ b.toNat = a.toNat + 32 ∨ b.isUpper = true ∧ a.toNat = b.toNat + 32

theorem isUpper_iff_val (c : Char) :
    c.isUpper = true ↔ c.val ≥ 'A'.val ∧ c.val ≤ 'Z'.val := decide_eq_true_iff

/-- The capital letters are the codes 65 to 90. -/
theorem isUpper_iff (c : Char) : c.isUpper = true ↔ 65 ≤ c.toNat ∧ c.toNat ≤ 90 := by
  rw [isUpper_iff_val, ge_iff_le, UInt32.le_iff_toNat_le, UInt32.le_iff_toNat_le]
  exact Iff.rfl

/-- Lowering moves the capital letters by 32 and no other character. -/
theorem toNat_toLower (c : Char) :
    c.toLower.toNat = if c.isUpper then c.toNat + 32 else c.toNat := by
  unfold Char.toLower
  by_cases h : c.isUpper = true
  · obtain ⟨-, hle⟩ := (isUpper_iff c).mp h
    have hval : c.val.toNat = c.toNat := rfl
    rw [dif_pos ((isUpper_iff_val c).mp h), if_pos h]
    show (c.val + ('a'.val - 'A'.val)).toNat = c.toNat + 32
    rw [UInt32.toNat_add, hval]
    show (c.toNat + 32) % 2 ^ 32 = c.toNat + 32
    omega
  · rw [dif_neg (fun hval => h ((isUpper_iff_val c).mpr hval)), if_neg h]

/-- Two characters have the same small letter exactly when they differ in case at most. -/
theorem toLower_eq_iff (a b : Char) : a.toLower = b.toLower ↔ SameLetter a b := by
  have heq : a.toLower = b.toLower ↔ a.toLower.toNat = b.toLower.toNat :=
    ⟨congrArg Char.toNat, fun h => Char.ext (UInt32.toNat_inj.mp h)⟩
  have hsame : a = b ↔ a.toNat = b.toNat :=
    ⟨congrArg Char.toNat, fun h => Char.ext (UInt32.toNat_inj.mp h)⟩
  rw [heq, toNat_toLower, toNat_toLower, SameLetter, hsame]
  simp only [isUpper_iff]
  split <;> split <;> omega

/-- Two texts in small letters are equal exactly when they differ in case at most. -/
theorem lower_eq_lower_iff (s t : List Char) :
    lower s = lower t ↔ List.Forall₂ SameLetter s t := by
  unfold lower
  rw [← List.forall₂_eq_eq_eq, List.forall₂_map_left_iff, List.forall₂_map_right_iff]
  simp only [toLower_eq_iff]

/-! ## Small letters -/

/-- A lowered character is no capital letter. -/
theorem isUpper_toLower (c : Char) : c.toLower.isUpper = false := by
  rw [Bool.eq_false_iff, ne_eq, isUpper_iff, toNat_toLower]
  split
  · next h =>
    rw [isUpper_iff] at h
    omega
  · next h =>
    rwa [isUpper_iff] at h

/-- A character that is no capital is kept. -/
theorem toLower_eq_self {c : Char} (h : c.isUpper = false) : c.toLower = c := by
  apply Char.ext
  rw [← UInt32.toNat_inj]
  show c.toLower.toNat = c.toNat
  rw [toNat_toLower, h]
  rfl

/-- Neither the capitals nor the small letters are blank. -/
theorem isBlank_toLower (c : Char) : isBlank c.toLower = isBlank c := by
  have hrange : ∀ d : Char, 65 ≤ d.toNat ∧ d.toNat ≤ 122 → isBlank d = false := by
    intro d hd
    simp only [isBlank, blankRanges, List.any_cons, List.any_nil, Bool.or_false, Bool.or_eq_false_iff,
      Bool.and_eq_false_iff, decide_eq_false_iff_not]
    omega
  cases hupper : c.isUpper with
  | false => rw [toLower_eq_self hupper]
  | true =>
    have hlow := toNat_toLower c
    rw [isUpper_iff] at hupper
    rw [if_pos ((isUpper_iff c).mpr hupper)] at hlow
    rw [hrange c (by omega), hrange c.toLower (by omega)]

/-- Nothing but a capital becomes another character. -/
theorem mem_lower {c : Char} {s : List Char} (h : c ∈ lower s) :
    c ∈ s ∨ 97 ≤ c.toNat ∧ c.toNat ≤ 122 := by
  obtain ⟨d, hd, rfl⟩ := List.mem_map.mp h
  cases hupper : d.isUpper with
  | false =>
    rw [toLower_eq_self hupper]
    exact .inl hd
  | true =>
    have hlow := toNat_toLower d
    rw [if_pos hupper] at hlow
    rw [isUpper_iff] at hupper
    exact .inr (by omega)

/-- Text without capital letters is its own lowering. -/
theorem lower_eq_self {s : List Char} (h : ∀ c ∈ s, c.isUpper = false) : lower s = s := by
  unfold lower
  rw [List.map_congr_left fun c hc => toLower_eq_self (h c hc), List.map_id']

/-- Spaces between words are kept. -/
theorem lower_intercalate (words : List (List Char)) :
    lower ([' '].intercalate words) = [' '].intercalate (words.map lower) := by
  induction words with
  | nil => rfl
  | cons w more ih =>
    cases more with
    | nil => simp
    | cons w' more =>
      rw [List.map_cons, List.map_cons, List.intercalate_cons_cons, List.intercalate_cons_cons,
        ← List.map_cons, ← ih]
      simp [lower]

end UnitOfWork.Text
