import UnitOfWork.Text.Formless

/-!
# Shown texts

A text is shown between double quotes, so that its characters can be told apart. Quotes and backslashes
are escaped, the commonest controls by a letter, and by its code whatever has no form of its own.
-/

set_option autoImplicit false

namespace UnitOfWork.Text

/-- A character by its code, in small hexadecimal digits without leading zeros. -/
def codeEscape (c : Char) : List Char :=
  ['\\', 'u', '\x7b'] ++ Nat.toDigits 16 c.toNat ++ ['\x7d']

/-- A character between quotes. -/
def shownChar (c : Char) : List Char :=
  match c with
  | '\x00' => ['\\', '0']
  | '\t' => ['\\', 't']
  | '\n' => ['\\', 'n']
  | '\r' => ['\\', 'r']
  | '"' => ['\\', '"']
  | '\\' => ['\\', '\\']
  | c => if isFormless c then codeEscape c else [c]

/-- A text between quotes. -/
def shown (s : String) : String := String.ofList ('"' :: s.toList.flatMap shownChar ++ ['"'])

end UnitOfWork.Text
