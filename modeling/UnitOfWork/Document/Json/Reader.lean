import UnitOfWork.Document
import UnitOfWork.Text.Radix

/-!
# Reading JSON

A reader takes characters off the front of a text and returns what is left. Blanks are the four of the
notation and no others; numbers have no leading zeros; a control character inside quotes is a fault.
Only blanks may follow the one value of a text.

Escapes of half a surrogate pair are well formed here. The text they stand in has no value, which is a
fault for whoever looks at the text and for nobody else.
-/

set_option autoImplicit false

namespace UnitOfWork.Document.Json

def isGap (c : Char) : Bool := c == ' ' || c == '\n' || c == '\t' || c == '\r'

/-- The text from its first character that is no blank. -/
def skipGap (s : List Char) : List Char := s.dropWhile isGap

/-! ## Quoted texts -/

/-- A character between quotes, or an escaped 16-bit unit. -/
inductive Mark where
  | char (c : Char)
  | unit (n : Nat)
deriving DecidableEq, Repr

/-- What a backslash and a letter stand for. -/
def escaped? : Char → Option Char
  | '"' => some '"'
  | '\\' => some '\\'
  | '/' => some '/'
  | 'b' => some '\x08'
  | 'f' => some '\x0c'
  | 'n' => some '\n'
  | 'r' => some '\r'
  | 't' => some '\t'
  | _ => none

/-- The marks up to the closing quote, and what follows it. -/
def marks : List Char → Option (List Mark × List Char)
  | [] => none
  | '"' :: rest => some ([], rest)
  | '\\' :: 'u' :: a :: b :: c :: d :: rest => do
    let n ← Text.fixed? 16 [a, b, c, d]
    let (ms, rest) ← marks rest
    pure (.unit n :: ms, rest)
  | '\\' :: letter :: rest => do
    let c ← escaped? letter
    let (ms, rest) ← marks rest
    pure (.char c :: ms, rest)
  | c :: rest =>
    if c.toNat < 0x20 then none
    else do
      let (ms, rest) ← marks rest
      pure (.char c :: ms, rest)

/-- The first unit of a surrogate pair. -/
def isLeading (n : Nat) : Bool := 0xD800 ≤ n && n < 0xDC00

/-- The second unit of a surrogate pair. -/
def isTrailing (n : Nat) : Bool := 0xDC00 ≤ n && n < 0xE000

/-- The character of a surrogate pair. -/
def paired (leading trailing : Nat) : Char :=
  Char.ofNat (0x10000 + (leading - 0xD800) * 0x400 + (trailing - 0xDC00))

/-- The characters that marks stand for, two units making one character where they are a pair. -/
def joined : List Mark → Option (List Char)
  | [] => some []
  | .char c :: rest => (joined rest).map (c :: ·)
  | .unit n :: rest =>
    if isLeading n then
      match rest with
      | .unit m :: rest => if isTrailing m then (joined rest).map (paired n m :: ·) else none
      | _ => none
    else if isTrailing n then none
    else (joined rest).map (Char.ofNat n :: ·)

/-- The text up to the closing quote. -/
def quoted (s : List Char) : Option (Quoted × List Char) :=
  (marks s).map fun (ms, rest) => ((joined ms).map String.ofList, rest)

/-! ## Numbers -/

/-- The whole part of a number: a lone zero, or digits that do not begin with one. -/
def isWhole : List Char → Bool
  | [] => false
  | ['0'] => true
  | '0' :: _ => false
  | _ => true

/-- A point and digits, if a point comes next. -/
def fraction (s : List Char) : Option (List Char × List Char) :=
  match s with
  | '.' :: rest =>
    let (digits, rest) := rest.span Text.isDigit
    if digits.isEmpty then none else some ('.' :: digits, rest)
  | _ => some ([], s)

/-- A sign, if one of the given comes next. -/
def sign (signs s : List Char) : List Char × List Char :=
  match s with
  | c :: rest => if signs.contains c then ([c], rest) else ([], s)
  | [] => ([], [])

/-- An exponent, if one comes next. -/
def exponent (s : List Char) : Option (List Char × List Char) :=
  match s with
  | c :: rest =>
    if c == 'e' || c == 'E' then
      let (signed, rest) := sign ['+', '-'] rest
      let (digits, rest) := rest.span Text.isDigit
      if digits.isEmpty then none else some (c :: signed ++ digits, rest)
    else some ([], s)
  | [] => some ([], [])

/-- A number. It is whole when it has no fraction, no exponent, and no sign before a zero. -/
def number (s : List Char) : Option (Document × List Char) := do
  let (negative, s) := sign ['-'] s
  let (whole, s) := s.span Text.isDigit
  if !isWhole whole then none
  let (fraction, s) ← fraction s
  let (exponent, s) ← exponent s
  let magnitude ← Text.fixed? 10 whole
  if fraction.isEmpty && exponent.isEmpty && (negative.isEmpty || magnitude != 0) then
    let value : Int := if negative.isEmpty then magnitude else -magnitude
    pure (.integer value, s)
  else pure (.real (String.ofList (negative ++ whole ++ fraction ++ exponent)), s)

/-! ## Values -/

mutual

/-- A value. The first argument bounds the steps. -/
def value : Nat → List Char → Option (Document × List Char)
  | 0, _ => none
  | steps + 1, s =>
    match skipGap s with
    | '"' :: rest => (quoted rest).map fun (q, rest) => (.text q, rest)
    | '[' :: rest =>
      match skipGap rest with
      | ']' :: rest => some (.list [], rest)
      | rest => (items steps rest).map fun (xs, rest) => (.list xs, rest)
    | '\x7b' :: rest =>
      match skipGap rest with
      | '\x7d' :: rest => some (.table [], rest)
      | rest => (members steps rest).map fun (ms, rest) => (.table ms, rest)
    | 'n' :: 'u' :: 'l' :: 'l' :: rest => some (.null, rest)
    | 't' :: 'r' :: 'u' :: 'e' :: rest => some (.boolean true, rest)
    | 'f' :: 'a' :: 'l' :: 's' :: 'e' :: rest => some (.boolean false, rest)
    | rest => number rest

/-- One value or more between commas, up to the closing bracket. -/
def items : Nat → List Char → Option (List Document × List Char)
  | 0, _ => none
  | steps + 1, s => do
    let (x, s) ← value steps s
    match skipGap s with
    | ',' :: rest =>
      let (xs, rest) ← items steps rest
      pure (x :: xs, rest)
    | ']' :: rest => pure ([x], rest)
    | _ => none

/-- One member or more between commas, up to the closing brace. -/
def members : Nat → List Char → Option (List (Quoted × Document) × List Char)
  | 0, _ => none
  | steps + 1, s => do
    let (name, s) ← match skipGap s with
      | '"' :: rest => quoted rest
      | _ => none
    let (x, s) ← match skipGap s with
      | ':' :: rest => value steps rest
      | _ => none
    match skipGap s with
    | ',' :: rest =>
      let (ms, rest) ← members steps rest
      pure ((name, x) :: ms, rest)
    | '\x7d' :: rest => pure ([(name, x)], rest)
    | _ => none

end

/-- The document of a text. Between two steps at most one leaves the text as long as it was, so twice
the length bounds the steps. -/
def read (text : String) : Option Document := do
  let s := text.toList
  let (x, rest) ← value (2 * s.length + 2) s
  if (skipGap rest).isEmpty then pure x else none

end UnitOfWork.Document.Json
