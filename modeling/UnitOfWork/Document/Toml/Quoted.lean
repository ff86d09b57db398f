import UnitOfWork.Document
import UnitOfWork.Text.Radix

/-!
# Quoted texts in TOML

There are four kinds: between double quotes with escapes or between single quotes as it stands, each on
one line or, between tripled quotes, over several. A text over several lines loses a line break at its
very start and may hold up to two quotes right before the closing three.

Each reader walks the text once. An escape is read where it begins, and the walk then skips the
characters that belonged to it.
-/

set_option autoImplicit false

namespace UnitOfWork.Document.Toml

def isBlank (c : Char) : Bool := c == ' ' || c == '\t'

/-- A character that stands for itself in comments and between quotes: the tab, and everything but
control characters. -/
def isPlain (c : Char) : Bool := c == '\t' || (0x20 ≤ c.toNat && c.toNat != 0x7F)

/-- What a single letter after a backslash stands for. -/
def escaped? : Char → Option Char
  | '"' => some '"'
  | '\\' => some '\\'
  | 'b' => some '\x08'
  | 'e' => some '\x1b'
  | 'f' => some '\x0c'
  | 'n' => some '\n'
  | 'r' => some '\r'
  | 't' => some '\t'
  | _ => none

/-- The character with the code that the next `count` hexadecimal digits write. -/
def coded? (count : Nat) (s : List Char) : Option Char :=
  let digits := s.take count
  if digits.length < count then none else (Text.fixed? 16 digits).bind Text.charOf?

/-- The character of an escape after its backslash, and the number of characters it takes. -/
def escape? : List Char → Option (Char × Nat)
  | [] => none
  | 'x' :: s => (coded? 2 s).map (·, 3)
  | 'u' :: s => (coded? 4 s).map (·, 5)
  | 'U' :: s => (coded? 8 s).map (·, 9)
  | c :: _ => (escaped? c).map (·, 1)

/-- A text of one line up to its closing double quote, after skipping some characters. -/
def basicFrom : Nat → List Char → Option (List Char × List Char)
  | _, [] => none
  | skip + 1, _ :: s => basicFrom skip s
  | 0, '"' :: s => some ([], s)
  | 0, '\\' :: s => do
    let (c, taken) ← escape? s
    let (cs, s) ← basicFrom taken s
    pure (c :: cs, s)
  | 0, c :: s =>
    if isPlain c then (basicFrom 0 s).map fun (cs, s) => (c :: cs, s) else none

/-- A text of one line up to its closing single quote. -/
def literal (s : List Char) : Option (List Char × List Char) :=
  let (cs, rest) := s.span fun c => isPlain c && c != '\''
  match rest with
  | '\'' :: rest => some (cs, rest)
  | _ => none

/-- Up to two quotes that still belong to a text, after the three that close it. -/
def lastQuotes (quote : Char) (s : List Char) : List Char × List Char :=
  let extra := (s.take 2).takeWhile (· == quote)
  (extra, s.drop extra.length)

/-- Whether the next three characters are quotes of a kind. -/
def atTriple (quote : Char) (s : List Char) : Bool := s.take 3 == [quote, quote, quote]

/-- The number of characters in the blanks and line breaks at the start of a text. -/
def gapLength : List Char → Nat
  | '\n' :: s => gapLength s + 1
  | '\r' :: '\n' :: s => gapLength s + 2
  | c :: s => if isBlank c then gapLength s + 1 else 0
  | [] => 0

/-- The number of characters that a backslash at the end of a line takes with it, all blanks and line
breaks after it, if the text stands there. -/
def lineJoin? (s : List Char) : Option Nat :=
  match s.dropWhile isBlank with
  | '\n' :: _ => some (gapLength s)
  | '\r' :: '\n' :: _ => some (gapLength s)
  | _ => none

/-- A text over several lines up to its closing double quotes, after skipping some characters. -/
def basicLinesFrom : Nat → List Char → Option (List Char × List Char)
  | _, [] => none
  | skip + 1, _ :: s => basicLinesFrom skip s
  | 0, c :: s =>
    if atTriple '"' (c :: s) then some (lastQuotes '"' (s.drop 2))
    else if c == '\\' then
      match lineJoin? s with
      | some taken => basicLinesFrom taken s
      | none => do
        let (c, taken) ← escape? s
        let (cs, s) ← basicLinesFrom taken s
        pure (c :: cs, s)
    else if isPlain c || c == '\n' || (c == '\r' && s.head? == some '\n') then
      (basicLinesFrom 0 s).map fun (cs, s) => (c :: cs, s)
    else none

/-- A text over several lines up to its closing single quotes. -/
def literalLines : List Char → Option (List Char × List Char)
  | [] => none
  | c :: s =>
    if atTriple '\'' (c :: s) then some (lastQuotes '\'' (s.drop 2))
    else if isPlain c || c == '\n' || (c == '\r' && s.head? == some '\n') then
      (literalLines s).map fun (cs, s) => (c :: cs, s)
    else none

/-- The text without a line break at its start. -/
def dropBreak : List Char → List Char
  | '\n' :: s => s
  | '\r' :: '\n' :: s => s
  | s => s

/-- A quoted text of any kind, from its opening quotes on. -/
def quoted? (s : List Char) : Option (List Char × List Char) :=
  if atTriple '"' s then basicLinesFrom 0 (dropBreak (s.drop 3))
  else if atTriple '\'' s then literalLines (dropBreak (s.drop 3))
  else match s with
    | '"' :: s => basicFrom 0 s
    | '\'' :: s => literal s
    | _ => none

end UnitOfWork.Document.Toml
