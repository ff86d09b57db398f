import UnitOfWork.Duration

/-!
# Durations in two words

A clock keeps a duration as whole seconds in 64 bits and the nanoseconds below a second in 32 bits. A
multiple is computed on the two words apart: the nanoseconds carry into the seconds, and where the
seconds leave 64 bits there is none, and the widest span stands in. The rest of the library has whole
nanoseconds, without a carry and with one bound. The order and the multiples are the same
(`toDuration_shorter`, `toDuration_scale`), and on the way nothing wraps: the product of the nanoseconds
always fits 64 bits (`toNat_carried`), and each test for a word that does not fit comes before the
operation.
-/

set_option autoImplicit false

namespace UnitOfWork.Duration

/-- Nanoseconds in a second. -/
def second : Nat := 1000000000

/-- A duration in two words. -/
structure Parts where
  seconds : UInt64
  nanos : UInt32
  nanos_lt : nanos.toNat < second
deriving DecidableEq

theorem limit_eq : limit + 1 = UInt64.size * second := rfl

namespace Parts

/-- The duration in nanoseconds. -/
def toDuration (p : Parts) : Duration where
  nanos := p.seconds.toNat * second + p.nanos.toNat
  nanos_le := by
    have hseconds := p.seconds.toNat_lt_size
    have hnanos := p.nanos_lt
    have hlimit := limit_eq
    unfold second UInt64.size at *
    omega

/-- The nanoseconds of the two words together. -/
theorem nanos_toDuration (p : Parts) :
    p.toDuration.nanos = p.seconds.toNat * second + p.nanos.toNat := rfl

/-! ## Order -/

/-- The seconds decide, then the nanoseconds. -/
def le (p q : Parts) : Bool :=
  p.seconds < q.seconds || p.seconds == q.seconds && p.nanos ≤ q.nanos

/-- The shorter of two. -/
def shorter (p q : Parts) : Parts := if p.le q then p else q

/-- The words compare as the durations do. -/
theorem le_iff (p q : Parts) : p.le q = true ↔ p.toDuration ≤ q.toDuration := by
  have hp := p.nanos_lt
  have hq := q.nanos_lt
  show _ ↔ p.seconds.toNat * second + p.nanos.toNat ≤ q.seconds.toNat * second + q.nanos.toNat
  simp only [le, Bool.or_eq_true, Bool.and_eq_true, decide_eq_true_eq, beq_iff_eq,
    UInt64.lt_iff_toNat_lt, UInt32.le_iff_toNat_le, ← UInt64.toNat_inj]
  unfold second at *
  omega

/-- The shorter of two pairs of words is the shorter duration. -/
theorem toDuration_shorter (p q : Parts) :
    (p.shorter q).toDuration = p.toDuration.shorter q.toDuration := by
  unfold shorter Duration.shorter
  by_cases h : p.toDuration ≤ q.toDuration
  · rw [if_pos h, if_pos ((le_iff p q).mpr h)]
  · rw [if_neg h, if_neg (mt (le_iff p q).mp h)]

/-! ## Multiples -/

/-- The product of two words, if it is one. -/
def times? (a b : UInt64) : Option UInt64 :=
  if a.toNat * b.toNat < UInt64.size then some (a * b) else none

/-- The sum of two words, if it is one. -/
def plus? (a b : UInt64) : Option UInt64 :=
  if a.toNat + b.toNat < UInt64.size then some (a + b) else none

/-- A product is given just when it fits the word. -/
theorem times?_eq_some_iff {a b c : UInt64} :
    times? a b = some c ↔ a.toNat * b.toNat = c.toNat := by
  have hc := c.toNat_lt_size
  unfold times?
  split
  · next h =>
    rw [Option.some.injEq, ← UInt64.toNat_inj, UInt64.toNat_mul, Nat.mod_eq_of_lt h]
  · next h =>
    constructor
    · intro hnone
      cases hnone
    · omega

/-- A sum is given just when it fits the word. -/
theorem plus?_eq_some_iff {a b c : UInt64} : plus? a b = some c ↔ a.toNat + b.toNat = c.toNat := by
  have hc := c.toNat_lt_size
  unfold plus?
  split
  · next h =>
    rw [Option.some.injEq, ← UInt64.toNat_inj, UInt64.toNat_add, Nat.mod_eq_of_lt h]
  · next h =>
    constructor
    · intro hnone
      cases hnone
    · omega

/-- The nanoseconds of a multiple, those that carry included. -/
def carried (p : Parts) (n : UInt32) : UInt64 := p.nanos.toUInt64 * n.toUInt64

/-- They always fit. -/
theorem toNat_carried (p : Parts) (n : UInt32) :
    (p.carried n).toNat = p.nanos.toNat * n.toNat := by
  have hlt : p.nanos.toNat * n.toNat < UInt64.size := by
    calc p.nanos.toNat * n.toNat ≤ second * UInt32.size :=
          Nat.mul_le_mul (Nat.le_of_lt p.nanos_lt) (Nat.le_of_lt n.toNat_lt_size)
      _ < UInt64.size := by decide
  rw [carried, UInt64.toNat_mul, UInt32.toNat_toUInt64, UInt32.toNat_toUInt64, Nat.mod_eq_of_lt hlt]

/-- The seconds of a multiple, unless they leave the word. -/
def scaledSeconds? (p : Parts) (n : UInt32) : Option UInt64 :=
  (times? p.seconds n.toUInt64).bind (plus? · (p.carried n / 1000000000))

/-- The nanoseconds of a multiple that do not carry. -/
def scaledNanos (p : Parts) (n : UInt32) : UInt32 := (p.carried n % 1000000000).toUInt32

theorem toNat_scaledNanos (p : Parts) (n : UInt32) :
    (p.scaledNanos n).toNat = p.nanos.toNat * n.toNat % second := by
  have hlt : p.nanos.toNat * n.toNat % second < UInt32.size :=
    Nat.lt_trans (Nat.mod_lt _ (by decide)) (by decide)
  rw [scaledNanos, UInt64.toNat_toUInt32, UInt64.toNat_mod, toNat_carried]
  exact Nat.mod_eq_of_lt hlt

/-- The nanoseconds kept are less than a second. -/
theorem scaledNanos_lt (p : Parts) (n : UInt32) : (p.scaledNanos n).toNat < second := by
  rw [toNat_scaledNanos]
  exact Nat.mod_lt _ (by decide)

/-- The widest span. -/
def widest : Parts := ⟨18446744073709551615, 999999999, by decide⟩

/-- The multiple, or the widest span where there is none. -/
def scale (p : Parts) (n : UInt32) : Parts :=
  match p.scaledSeconds? n with
  | some seconds => ⟨seconds, p.scaledNanos n, p.scaledNanos_lt n⟩
  | none => widest

/-- The seconds of the product, the carry included. -/
theorem scaledSeconds?_eq_some_iff {p : Parts} {n : UInt32} {seconds : UInt64} :
    p.scaledSeconds? n = some seconds ↔
      p.seconds.toNat * n.toNat + p.nanos.toNat * n.toNat / second = seconds.toNat := by
  have hseconds := seconds.toNat_lt_size
  have hcarry : (p.carried n / 1000000000).toNat = p.nanos.toNat * n.toNat / second := by
    rw [UInt64.toNat_div, toNat_carried]
    rfl
  unfold scaledSeconds?
  rw [Option.bind_eq_some_iff]
  simp only [times?_eq_some_iff, plus?_eq_some_iff, UInt32.toNat_toUInt64, hcarry]
  constructor
  · rintro ⟨whole, hwhole, hsum⟩
    omega
  · intro hsum
    have hfits : p.seconds.toNat * n.toNat < UInt64.size := by omega
    refine ⟨UInt64.ofNat (p.seconds.toNat * n.toNat), ?_, ?_⟩
    · rw [UInt64.toNat_ofNat_of_lt' hfits]
    · rw [UInt64.toNat_ofNat_of_lt' hfits, hsum]

/-- The product in whole nanoseconds, split into what the two words hold. -/
theorem nanos_mul (p : Parts) (n : Nat) :
    p.toDuration.nanos * n =
      (p.seconds.toNat * n + p.nanos.toNat * n / second) * second + p.nanos.toNat * n % second := by
  have hsplit := Nat.div_add_mod' (p.nanos.toNat * n) second
  calc p.toDuration.nanos * n
      = p.seconds.toNat * n * second + p.nanos.toNat * n := by
        rw [nanos_toDuration, Nat.add_mul, Nat.mul_right_comm]
    _ = _ := by rw [Nat.add_mul, Nat.add_assoc, hsplit]

/-- The words hold the multiple, cut at the widest span. -/
theorem toDuration_scale (p : Parts) (n : UInt32) :
    (p.scale n).toDuration = p.toDuration.scale n.toNat := by
  apply eq_of_nanos
  rw [nanos_scale, nanos_mul]
  unfold scale
  split
  · next seconds hsome =>
    have hseconds := scaledSeconds?_eq_some_iff.mp hsome
    have hbound := (Parts.mk seconds (p.scaledNanos n) (p.scaledNanos_lt n)).toDuration.nanos_le
    rw [nanos_toDuration] at hbound ⊢
    rw [hseconds, ← toNat_scaledNanos]
    exact (Nat.min_eq_left hbound).symm
  · next hnone =>
    -- The seconds of the product leave the word, so the product passes the widest span.
    have hpast : UInt64.size ≤
        p.seconds.toNat * n.toNat + p.nanos.toNat * n.toNat / second := by
      apply Nat.le_of_not_lt
      intro hfits
      have hsome := (scaledSeconds?_eq_some_iff (p := p) (n := n)).mpr
        (UInt64.toNat_ofNat_of_lt' hfits).symm
      cases hnone.symm.trans hsome
    have hwidest : widest.toDuration.nanos = limit := rfl
    have hlimit := limit_eq
    have hproduct := Nat.mul_le_mul_right second hpast
    rw [hwidest, Nat.min_eq_right]
    omega

end Parts

end UnitOfWork.Duration
