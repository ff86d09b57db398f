import UnitOfWork.Binary64
import UnitOfWork.Text.Radix

/-!
# Written binary64 words

A word is written as its sixteen hexadecimal digits in small letters, so no value, no sign and no
payload is lost.
-/

set_option autoImplicit false

namespace UnitOfWork.Binary64

/-- The digits of a word. -/
def text (x : Binary64) : String :=
  let digits := Nat.toDigits 16 x.bits.toNat
  String.ofList (List.replicate (16 - digits.length) '0' ++ digits)

/-- The word with the given digits. -/
def ofText? (s : String) : Option Binary64 :=
  (Text.fixed? 16 s.toList).map fun n => ⟨BitVec.ofNat 64 n⟩

/-- Whether a word is a number from zero up to one, one excluded. -/
def isProperFraction (x : Binary64) : Bool :=
  !x.isNaN && !x.isNegative && !x.value.atLeast (ofNat 1)

end UnitOfWork.Binary64
