/-!
# Decimal numerals

Reading an unsigned number of bounded width. One leading plus sign is allowed; everything after it
is decimal digits of ASCII. The first offence from the left is the one reported, so a number that has
already outgrown the bound is too large whatever follows.
-/

set_option autoImplicit false

namespace UnitOfWork.Text

/-- Why a text is not a number within the bound. -/
inductive Numeral.Fault where
  | empty
  | invalidDigit
  | tooLarge
deriving DecidableEq, Repr

def Numeral.Fault.message : Numeral.Fault → String
  | .empty => "cannot parse integer from empty string"
  | .invalidDigit => "invalid digit found in string"
  | .tooLarge => "number too large to fit in target type"

/-- The value of an ASCII decimal digit. -/
def digit? (c : Char) : Option Nat :=
  if '0' ≤ c ∧ c ≤ '9' then some (c.toNat - '0'.toNat) else none

/-- The number `value` continued by more digits, under the bound. -/
def Numeral.continued (limit : Nat) : Nat → List Char → Except Numeral.Fault Nat
  | value, [] => .ok value
  | value, c :: rest =>
    match digit? c with
    | none => .error .invalidDigit
    | some d =>
      if value * 10 + d ≤ limit then Numeral.continued limit (value * 10 + d) rest
      else .error .tooLarge

/-- The number a text names, at most `limit`. A lone sign has an invalid digit. -/
def numeral (limit : Nat) : List Char → Except Numeral.Fault Nat
  | [] => .error .empty
  | ['+'] => .error .invalidDigit
  | '+' :: rest => Numeral.continued limit 0 rest
  | s => Numeral.continued limit 0 s

/-- The greatest number of 32 bits. -/
def limit32 : Nat := UInt32.size - 1

/-- The greatest number of 64 bits. -/
def limit64 : Nat := UInt64.size - 1

end UnitOfWork.Text
