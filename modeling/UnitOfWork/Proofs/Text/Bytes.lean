import Mathlib.Data.String.Basic

/-!
# Texts by their bytes

The order of two texts is that of their first different characters by code. In UTF-8 it is also the
order of their bytes: a character with a greater code is encoded with a greater leading byte, or with
as many bytes, the first different one of them greater (`encode_lt`). Hence a list of texts that
increases does so by bytes as well.
-/

set_option autoImplicit false

namespace UnitOfWork.Text

/-- The bytes of a text in UTF-8. -/
def bytes (s : String) : List UInt8 := s.toUTF8.data.toList

/-- The bytes of a text are those of its characters, one after the other. -/
theorem bytes_eq (s : String) : bytes s = s.toList.flatMap String.utf8EncodeChar := by
  unfold bytes
  conv_lhs => rw [← String.ofList_toList (s := s)]
  rw [String.toUTF8_eq_toByteArray, String.toByteArray_ofList]
  exact List.toList_data_toByteArray

/-- Where as many bytes are unequal, what follows them plays no part. -/
theorem append_lt_append {a b : List UInt8} (hlength : a.length = b.length) (h : a < b)
    (x y : List UInt8) : a ++ x < b ++ y := by
  induction a generalizing b with
  | nil =>
    obtain rfl := List.length_eq_zero_iff.mp hlength.symm
    exact absurd h (List.not_lt_nil [])
  | cons first a ih =>
    cases b with
    | nil => cases hlength
    | cons first' b =>
      rw [List.cons_append, List.cons_append, List.cons_lt_cons_iff]
      obtain hfirst | ⟨rfl, hrest⟩ := List.cons_lt_cons_iff.mp h
      · exact .inl hfirst
      · exact .inr ⟨rfl, ih (Nat.succ.inj hlength) hrest⟩

variable {a b : Nat}

theorem ofNat_lt_ofNat_iff (ha : a < 256) (hb : b < 256) :
    UInt8.ofNat a < UInt8.ofNat b ↔ a < b := by
  rw [UInt8.lt_iff_toNat_lt, UInt8.toNat_ofNat', UInt8.toNat_ofNat', Nat.mod_eq_of_lt ha,
    Nat.mod_eq_of_lt hb]

theorem ofNat_eq_ofNat_iff (ha : a < 256) (hb : b < 256) :
    UInt8.ofNat a = UInt8.ofNat b ↔ a = b := by
  rw [← UInt8.toNat_inj, UInt8.toNat_ofNat', UInt8.toNat_ofNat', Nat.mod_eq_of_lt ha,
    Nat.mod_eq_of_lt hb]

/-- Byte strings compare by their first bytes, then by what follows them. -/
theorem ofNat_cons_lt_iff (ha : a < 256) (hb : b < 256) (x y : List UInt8) :
    UInt8.ofNat a :: x < UInt8.ofNat b :: y ↔ a < b ∨ a = b ∧ x < y := by
  rw [List.cons_lt_cons_iff, ofNat_lt_ofNat_iff ha hb, ofNat_eq_ofNat_iff ha hb]

/-- A lesser leading byte decides, whatever follows it. -/
theorem lead_lt (hab : a < b) (hb : b < 256) (x y : List UInt8) :
    UInt8.ofNat a :: x < UInt8.ofNat b :: y :=
  (ofNat_cons_lt_iff (hab.trans hb) hb x y).mpr (.inl hab)

/-- The encoding of a character with a greater code is greater, whatever follows either. -/
theorem encode_lt {c d : Char} (h : c < d) (x y : List UInt8) :
    String.utf8EncodeChar c ++ x < String.utf8EncodeChar d ++ y := by
  have hcode : c.val.toNat < d.val.toNat := UInt32.lt_iff_toNat_lt.mp h
  have hbound : d.val.toNat < 0x110000 := by
    have hvalid := d.valid
    unfold UInt32.isValidChar Nat.isValidChar at hvalid
    omega
  unfold String.utf8EncodeChar
  generalize c.val.toNat = v at hcode
  generalize d.val.toNat = w at hcode hbound
  dsimp only
  -- More bytes come with a greater leading one; as many bytes are the digits of the two codes.
  by_cases hv1 : v ≤ 127
  · rw [if_pos hv1]
    split
    · exact lead_lt hcode (by omega) _ _
    split
    · exact lead_lt (by omega) (by omega) _ _
    split
    · exact lead_lt (by omega) (by omega) _ _
    · exact lead_lt (by omega) (by omega) _ _
  rw [if_neg hv1, if_neg (by omega : ¬w ≤ 127)]
  by_cases hv2 : v ≤ 2047
  · rw [if_pos hv2]
    split
    · refine append_lt_append (by rfl) ?_ x y
      simp (disch := omega) only [ofNat_cons_lt_iff, List.not_lt_nil, and_false, or_false]
      omega
    split
    · exact lead_lt (by omega) (by omega) _ _
    · exact lead_lt (by omega) (by omega) _ _
  rw [if_neg hv2, if_neg (by omega : ¬w ≤ 2047)]
  by_cases hv3 : v ≤ 65535
  · rw [if_pos hv3]
    split
    · refine append_lt_append (by rfl) ?_ x y
      simp (disch := omega) only [ofNat_cons_lt_iff, List.not_lt_nil, and_false, or_false]
      omega
    · exact lead_lt (by omega) (by omega) _ _
  rw [if_neg hv3, if_neg (by omega : ¬w ≤ 65535)]
  have hdigits : ∀ n, n / 4096 = n / 64 / 64 ∧ n / 262144 = n / 64 / 64 / 64 := fun n => by omega
  refine append_lt_append (by rfl) ?_ x y
  simp (disch := omega) only [ofNat_cons_lt_iff, List.not_lt_nil, and_false, or_false]
  rw [(hdigits v).1, (hdigits v).2, (hdigits w).1, (hdigits w).2]
  omega

/-- A lesser text has lesser bytes. -/
theorem bytes_lt_bytes {s t : String} (h : s < t) : bytes s < bytes t := by
  rw [String.lt_iff_toList_lt] at h
  rw [bytes_eq, bytes_eq]
  generalize s.toList = a at h
  generalize t.toList = b at h
  induction a generalizing b with
  | nil =>
    cases b with
    | nil => exact absurd h (List.not_lt_nil [])
    | cons d b =>
      obtain ⟨byte, rest, hbytes⟩ :=
        List.exists_cons_of_ne_nil (String.utf8EncodeChar_ne_nil (c := d))
      rw [List.flatMap_nil, List.flatMap_cons, hbytes, List.cons_append]
      exact List.nil_lt_cons byte _
  | cons c a ih =>
    cases b with
    | nil => exact absurd h (List.not_lt_nil _)
    | cons d b =>
      rw [List.flatMap_cons, List.flatMap_cons]
      obtain hlt | ⟨rfl, hrest⟩ := List.cons_lt_cons_iff.mp h
      · exact encode_lt hlt _ _
      · exact List.append_left_lt (ih b hrest)

end UnitOfWork.Text
