/-!
# Durations

A duration is a whole number of nanoseconds under the widest span a clock of `2 ^ 64` seconds can
name. The bound is a field of the type, so every operation states what it does at the bound: sums
and multiples saturate there, and nothing wraps. Two readings in milliseconds exist because two
readers need them: a settings file clamps at 64 bits, a log line keeps the low 64 bits.
-/

set_option autoImplicit false

namespace UnitOfWork

/-- The widest span in nanoseconds: `2 ^ 64 - 1` seconds and `999999999` nanoseconds. -/
def Duration.limit : Nat := 18446744073709551615999999999

/-- A span of time in whole nanoseconds. -/
structure Duration where
  nanos : Nat
  nanos_le : nanos ≤ Duration.limit
deriving DecidableEq, Repr

namespace Duration

/-- The span of `n` nanoseconds, cut at the limit. -/
def ofNanos (n : Nat) : Duration := ⟨min n limit, Nat.min_le_right _ _⟩

/-- The span of `n` milliseconds, cut at the limit. -/
def ofMillis (n : Nat) : Duration := ofNanos (n * 1000000)

/-- The empty span. -/
def zero : Duration := ⟨0, Nat.zero_le _⟩

/-- The widest span. -/
def widest : Duration := ⟨limit, Nat.le_refl _⟩

instance : Inhabited Duration := ⟨zero⟩

instance : LE Duration := ⟨fun a b => a.nanos ≤ b.nanos⟩

instance : LT Duration := ⟨fun a b => a.nanos < b.nanos⟩

instance (a b : Duration) : Decidable (a ≤ b) := inferInstanceAs (Decidable (a.nanos ≤ b.nanos))

instance (a b : Duration) : Decidable (a < b) := inferInstanceAs (Decidable (a.nanos < b.nanos))

/-- The sum, cut at the limit. -/
def add (a b : Duration) : Duration := ofNanos (a.nanos + b.nanos)

instance : Add Duration := ⟨add⟩

/-- The multiple, cut at the limit. -/
def scale (a : Duration) (n : Nat) : Duration := ofNanos (a.nanos * n)

/-- The shorter of two spans. -/
def shorter (a b : Duration) : Duration := if a ≤ b then a else b

/-- Whole seconds. -/
def wholeSeconds (a : Duration) : Nat := a.nanos / 1000000000

/-- Whole milliseconds; what is below a millisecond is dropped. -/
def wholeMillis (a : Duration) : Nat := a.nanos / 1000000

/-- Whole milliseconds as a log line carries them: the low 64 bits. -/
def loggedMillis (a : Duration) : Nat := a.wholeMillis % UInt64.size

/-- Whole milliseconds as a settings file carries them: at most `2 ^ 64 - 1`. -/
def storedMillis (a : Duration) : Nat := min a.wholeMillis (UInt64.size - 1)

/-- The sum of several spans, unless it passes the limit. -/
def sum? (spans : List Duration) : Option Duration :=
  let total := spans.foldr (fun a total => a.nanos + total) 0
  if h : total ≤ limit then some ⟨total, h⟩ else none

/-- A span is its nanoseconds: the bound is no more than a proof. -/
theorem eq_of_nanos {a b : Duration} (h : a.nanos = b.nanos) : a = b := by
  cases a
  cases b
  cases h
  rfl

/-- A number of nanoseconds is kept up to the limit. -/
@[simp] theorem nanos_ofNanos (n : Nat) : (ofNanos n).nanos = min n limit := rfl

/-- A sum is exact up to the limit. -/
@[simp] theorem nanos_add (a b : Duration) : (a + b).nanos = min (a.nanos + b.nanos) limit := rfl

/-- A multiple is exact up to the limit. -/
@[simp] theorem nanos_scale (a : Duration) (n : Nat) :
    (a.scale n).nanos = min (a.nanos * n) limit := rfl

/-- The shorter of two spans has the lesser number of nanoseconds. -/
theorem nanos_shorter (a b : Duration) : (a.shorter b).nanos = min a.nanos b.nanos := by
  unfold shorter
  split
  · next h => exact (Nat.min_eq_left h).symm
  · next h => exact (Nat.min_eq_right (Nat.le_of_not_le h)).symm

end Duration

end UnitOfWork
