import UnitOfWork.Duration

/-!
# Written durations

The written form names the largest unit of `s`, `ms`, `µs` and `ns` that gives a non-zero whole
part, then the fraction in that unit without trailing zeros. The empty span is `0ns`.
-/

set_option autoImplicit false

namespace UnitOfWork.Duration

/-- The point and the digits of `value` units of `10 ^ -width`, trailing zeros dropped; nothing
for a zero fraction. -/
def fractionText (width value : Nat) : String :=
  let digits := Nat.toDigits 10 value
  let padded := List.replicate (width - digits.length) '0' ++ digits
  let kept := (padded.reverse.dropWhile (· == '0')).reverse
  if kept.isEmpty then "" else "." ++ String.ofList kept

/-- A count of nanoseconds in a unit of `10 ^ width` nanoseconds. -/
def inUnit (nanos width : Nat) (unit : String) : String :=
  let size := Nat.pow 10 width
  toString (nanos / size) ++ fractionText width (nanos % size) ++ unit

/-- The written form of a span. -/
def text (d : Duration) : String :=
  if 1000000000 ≤ d.nanos then inUnit d.nanos 9 "s"
  else if 1000000 ≤ d.nanos then inUnit d.nanos 6 "ms"
  else if 1000 ≤ d.nanos then inUnit d.nanos 3 "µs"
  else inUnit d.nanos 0 "ns"

end UnitOfWork.Duration
