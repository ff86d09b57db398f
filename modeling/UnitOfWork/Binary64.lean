/-!
# Binary64 factors

A jitter factor is a 64-bit IEEE 754 word. Its arithmetic is done exactly: a finite non-negative
word is a whole number of *grains*, one grain being `2 ^ -1074`, the least positive value. Sums,
products and comparisons are computed on grains and then rounded to the nearest value of the
format, ties to the even neighbour. No machine float takes part, so each step has a proof.

What is not here: negative results and subtraction, which no delay needs.
-/

set_option autoImplicit false

namespace UnitOfWork

/-- A 64-bit IEEE 754 word. -/
structure Binary64 where
  bits : BitVec 64
deriving DecidableEq, Repr

namespace Binary64

/-- The word without its sign. -/
def magnitude (x : Binary64) : Nat := x.bits.toNat % 1 <<< 63

/-- The sign bit. -/
def isNegative (x : Binary64) : Bool := 1 <<< 63 ≤ x.bits.toNat

/-- Magnitudes that share an exponent field. -/
def binade : Nat := 1 <<< 52

/-- The magnitude of infinity; a greater magnitude is no number. -/
def infiniteMagnitude : Nat := 2047 * binade

def isNaN (x : Binary64) : Bool := infiniteMagnitude < x.magnitude

/-- At most zero, either zero included. No number compares with a word that is none. -/
def isNonPositive (x : Binary64) : Bool := !x.isNaN && (x.isNegative || x.magnitude == 0)

/-- The word of a magnitude below `2 ^ 63`, with the sign bit clear. -/
def ofMagnitude (n : Nat) : Binary64 := ⟨BitVec.ofNat 64 n⟩

def zero : Binary64 := ofMagnitude 0

/-- A non-negative result of an operation. -/
inductive Result where
  /-- A finite value, in grains. -/
  | finite (grains : Nat)
  | infinite
  | notANumber
deriving DecidableEq, Repr

/-- Grains in one. -/
def unit : Nat := 1 <<< 1074

/-- Grains of the value with the given magnitude. A zero exponent field leaves out the leading bit
and counts as exponent one. -/
def grains (magnitude : Nat) : Nat :=
  let exponent := magnitude / binade
  let fraction := magnitude % binade
  if exponent = 0 then fraction else (binade + fraction) <<< (exponent - 1)

/-- The value of a word whose sign bit is clear. -/
def value (x : Binary64) : Result :=
  if x.isNaN then .notANumber
  else if x.magnitude = infiniteMagnitude then .infinite
  else .finite (grains x.magnitude)

/-- The magnitude of the value with the given grains, which must be one of the format's. -/
def magnitudeOf (grains : Nat) : Nat :=
  if grains < binade then grains
  else
    let exponent := grains.log2 - 52
    (exponent + 1) * binade + (grains >>> exponent - binade)

/-- The whole number nearest to `n / d`, a tie going to the even one. -/
def nearest (n d : Nat) : Nat :=
  let q := n / d
  let r := n % d
  if 2 * r < d then q
  else if d < 2 * r then q + 1
  else if q % 2 = 0 then q else q + 1

/-- Grains of the first power of two past the format. -/
def overflow : Nat := 1 <<< (1024 + 1074)

/-- The value of the format nearest to `n / d` grains: 53 significant bits, never finer than a
grain. -/
def round (n d : Nat) : Result :=
  let q := n / d
  let spare := q.log2 - 52
  let r := nearest n (d <<< spare) <<< spare
  if r < overflow then .finite r else .infinite

/-- The value nearest to a whole number. -/
def ofNat (n : Nat) : Result := round (n * unit) 1

/-- One plus a value. -/
def onePlus : Result → Result
  | .finite g => round (unit + g) 1
  | .infinite => .infinite
  | .notANumber => .notANumber

/-- The product. Zero times infinity is no number. -/
def mul : Result → Result → Result
  | .finite a, .finite b => round (a * b) unit
  | .finite a, .infinite => if a = 0 then .notANumber else .infinite
  | .infinite, .finite b => if b = 0 then .notANumber else .infinite
  | .infinite, .infinite => .infinite
  | .notANumber, _ => .notANumber
  | _, .notANumber => .notANumber

/-- At least as great; false whenever one side is no number. -/
def Result.atLeast : Result → Result → Bool
  | .finite a, .finite b => b ≤ a
  | .infinite, .finite _ => true
  | .infinite, .infinite => true
  | _, _ => false

/-- The whole part as a 64-bit count: clamped at the top, and zero for what is no number. -/
def Result.toCount : Result → Nat
  | .finite g => min (g / unit) (UInt64.size - 1)
  | .infinite => UInt64.size - 1
  | .notANumber => 0

end Binary64

end UnitOfWork
