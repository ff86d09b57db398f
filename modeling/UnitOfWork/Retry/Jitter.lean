import UnitOfWork.Binary64

/-!
# Jitter

Jitter stretches a delay by a factor between zero and one. A provider may return any word at all, so
every factor is brought into the half-open range first: what is no number or not above zero counts as
zero, and everything else is cut at the greatest factor. Draws of a random provider come from outside,
as a function of the attempt.
-/

set_option autoImplicit false

namespace UnitOfWork.Retry

/-- Where the factor of each attempt comes from. -/
inductive Jitter where
  /-- Always zero, so delays are exact. -/
  | none
  /-- Drawn from `[0, 1)` by a generator outside the library. -/
  | random (draw : Nat → Binary64)
  /-- Supplied by the caller. -/
  | custom (provider : Nat → Binary64)

namespace Jitter

/-- The greatest factor: one less the distance from one to the next greater value. -/
def greatest : Binary64 := ⟨0x3feffffffffffffe⟩

/-- A factor brought into the range from zero to `greatest`. -/
def sanitize (raw : Binary64) : Binary64 :=
  if raw.isNaN || raw.isNonPositive then Binary64.zero
  else if raw.magnitude ≤ greatest.magnitude then raw
  else greatest

/-- What a provider returns for an attempt, unchecked. -/
def raw : Jitter → Nat → Binary64
  | .none, _ => Binary64.zero
  | .random draw, attempt => draw attempt
  | .custom provider, attempt => provider attempt

/-- The factor for an attempt. -/
def factor (jitter : Jitter) (attempt : Nat) : Binary64 := sanitize (jitter.raw attempt)

/-- A stand-in for a generator: the draws of a Weyl sequence, all in the upper half of the unit
interval. Runs that are to be repeated exactly draw from it; what is stated of delays is stated of all
draws. -/
def weyl (attempt : Nat) : Binary64 :=
  ⟨BitVec.ofNat 64 (0x3fe * Binary64.binade + attempt * 0x9e3779b97f4a7 % Binary64.binade)⟩

/-- How a provider is shown. -/
def text : Jitter → String
  | .none => "None"
  | .random _ => "Random"
  | .custom _ => "Custom(<function>)"

end Jitter

end UnitOfWork.Retry
