/-!
# Blank characters

A character is blank when Unicode gives it the property White_Space. Trimming takes blanks off both
ends of a text, and `words` are the pieces between runs of them. Texts are lists of characters here,
so that each law is an induction on the list.
-/

set_option autoImplicit false

namespace UnitOfWork.Text

/-- The ranges of White_Space, both ends included. -/
def blankRanges : List (Nat × Nat) :=
  [(0x9, 0xD), (0x20, 0x20), (0x85, 0x85), (0xA0, 0xA0), (0x1680, 0x1680), (0x2000, 0x200A),
    (0x2028, 0x2029), (0x202F, 0x202F), (0x205F, 0x205F), (0x3000, 0x3000)]

/-- The property White_Space. -/
def isBlank (c : Char) : Bool := blankRanges.any fun (lo, hi) => lo ≤ c.toNat && c.toNat ≤ hi

/-- The text without the blanks at its start. -/
def trimStart (s : List Char) : List Char := s.dropWhile isBlank

/-- The text without the blanks at its end. -/
def trimEnd (s : List Char) : List Char := (s.reverse.dropWhile isBlank).reverse

/-- The text without the blanks at either end. -/
def trim (s : List Char) : List Char := trimEnd (trimStart s)

/-- The pieces of a text between the characters that `cut` picks out, empty pieces included; a
text without such a character is its own only piece. -/
def pieces (cut : Char → Bool) : List Char → List (List Char)
  | [] => [[]]
  | c :: rest =>
    if cut c then [] :: pieces cut rest
    else match pieces cut rest with
      | [] => [[c]]
      | piece :: more => (c :: piece) :: more

/-- The maximal runs of characters that are not blank. -/
def words (s : List Char) : List (List Char) := (pieces isBlank s).filter fun w => !w.isEmpty

/-- ASCII capitals made small; every other character is kept. -/
def lower (s : List Char) : List Char := s.map Char.toLower

end UnitOfWork.Text
