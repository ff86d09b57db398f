/-!
# Digits of a radix

Digits up to radix sixteen, in ASCII, capital or small letters alike.
-/

set_option autoImplicit false

namespace UnitOfWork.Text

/-- The value of a character among the digits up to `f`. -/
def hexDigit? (c : Char) : Option Nat :=
  if '0' ≤ c ∧ c ≤ '9' then some (c.toNat - '0'.toNat)
  else if 'a' ≤ c ∧ c ≤ 'f' then some (c.toNat - 'a'.toNat + 10)
  else if 'A' ≤ c ∧ c ≤ 'F' then some (c.toNat - 'A'.toNat + 10)
  else none

/-- The value of a digit of a radix up to sixteen. -/
def digitIn? (radix : Nat) (c : Char) : Option Nat := (hexDigit? c).filter (· < radix)

/-- The number with the given digits, the highest first. -/
def valueIn (radix : Nat) (digits : List Nat) : Nat :=
  digits.foldl (fun value d => value * radix + d) 0

/-- The number that exactly these characters write; nothing for no characters. -/
def fixed? (radix : Nat) (s : List Char) : Option Nat :=
  if s.isEmpty then none else (s.mapM (digitIn? radix)).map (valueIn radix)

/-- The bytes that pairs of hexadecimal digits write. -/
def hexBytes? : List Char → Option (List UInt8)
  | [] => some []
  | [_] => none
  | a :: b :: rest => do
    let byte ← fixed? 16 [a, b]
    let bytes ← hexBytes? rest
    pure (UInt8.ofNat byte :: bytes)

/-- An ASCII decimal digit. -/
def isDigit (c : Char) : Bool := '0' ≤ c && c ≤ '9'

/-- The character with a code, unless the code is no character's. -/
def charOf? (n : Nat) : Option Char := if n.isValidChar then some (Char.ofNat n) else none

end UnitOfWork.Text
