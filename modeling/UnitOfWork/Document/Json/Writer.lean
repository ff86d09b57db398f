import UnitOfWork.Document

/-!
# Writing JSON

The written form has no blanks between its tokens. Inside quotes only the quote, the backslash and
control characters are escaped, by a letter where the notation has one and by four digits otherwise.
-/

set_option autoImplicit false

namespace UnitOfWork.Document.Json

/-- A 16-bit unit as an escape of four small hexadecimal digits. -/
def unitEscape (n : Nat) : List Char :=
  let digits := Nat.toDigits 16 n
  ['\\', 'u'] ++ List.replicate (4 - digits.length) '0' ++ digits

/-- A character between quotes. -/
def escape (c : Char) : List Char :=
  match c with
  | '"' => ['\\', '"']
  | '\\' => ['\\', '\\']
  | '\x08' => ['\\', 'b']
  | '\x0c' => ['\\', 'f']
  | '\n' => ['\\', 'n']
  | '\r' => ['\\', 'r']
  | '\t' => ['\\', 't']
  | c => if c.toNat < 0x20 then unitEscape c.toNat else [c]

/-- A text between quotes. A text without a value is written as half of a surrogate pair. -/
def quote : Quoted → List Char
  | some s => '"' :: s.toList.flatMap escape ++ ['"']
  | none => '"' :: unitEscape 0xD800 ++ ['"']

mutual

/-- The written form of a document. -/
def written : Document → List Char
  | .null => "null".toList
  | .boolean value => (toString value).toList
  | .integer value => (toString value).toList
  | .real literal => literal.toList
  | .invalidNumber literal => literal.toList
  | .moment literal => quote (some literal)
  | .text value => quote value
  | .list items => '[' :: [','].intercalate (writtenItems items) ++ [']']
  | .table members => '\x7b' :: [','].intercalate (writtenMembers members) ++ ['\x7d']

def writtenItems : List Document → List (List Char)
  | [] => []
  | x :: rest => written x :: writtenItems rest

def writtenMembers : List (Quoted × Document) → List (List Char)
  | [] => []
  | (name, x) :: rest => (quote name ++ ':' :: written x) :: writtenMembers rest

end

/-- The text of a document. -/
def write (d : Document) : String := String.ofList (written d)

end UnitOfWork.Document.Json
