import UnitOfWork.Binary64
import UnitOfWork.Document
import UnitOfWork.Text.Blank
import UnitOfWork.Text.Radix

/-!
# Unquoted values in TOML

An unquoted value is a boolean, a number or a point in time, and no text is two of them. Digits may be
grouped by underscores. Whole numbers of radix ten have no leading zeros; other radixes take no sign.
Points in time must exist, a leap second included.

Whether a text has the form of a number is decided first, and that form is wider than the numbers: after
an underscore a whole number may go on with any characters, and no width bounds it. A text of that form
without a value, be it for a digit that is none or for a size past 128 bits or past every finite binary64,
is a fault only for whoever looks at it.
-/

set_option autoImplicit false

namespace UnitOfWork.Document.Toml

/-! ## Numbers -/

/-- A sign, and what follows it. -/
def signed : List Char → Bool × List Char
  | '-' :: s => (true, s)
  | '+' :: s => (false, s)
  | s => (false, s)

def isHexDigit (c : Char) : Bool := (Text.hexDigit? c).isSome

/-- Whether every underscore stands between two characters of a kind. -/
def isGrouped (kind : Char → Bool) (s : List Char) : Bool :=
  let pieces := Text.pieces (· == '_') s
  pieces.tail.all (·.head?.any kind) && pieces.dropLast.all (·.getLast?.any kind)

def ungrouped (s : List Char) : List Char := s.filter (· != '_')

/-- A whole number within 128 bits, signed or unsigned. -/
def bounded (literal : List Char) (n : Int) : Document :=
  if -(1 <<< 127) ≤ n ∧ n < 1 <<< 128 then .integer n
  else .invalidNumber (String.ofList literal)

/-- The whole number of grouped digits, negated or not. -/
def whole (radix : Nat) (negative : Bool) (digits literal : List Char) : Document :=
  match Text.fixed? radix (ungrouped digits) with
  | some n => bounded literal (if negative then -n else n)
  | none => .invalidNumber (String.ofList literal)

/-- A whole number after the mark of a radix. The mark alone has the form of a number as well. -/
def radixed? (radix : Nat) (digits literal : List Char) : Option Document :=
  if digits.all (fun c => c == '_' || (Text.digitIn? radix c).isSome) && isGrouped isHexDigit digits
  then some (whole radix false digits literal)
  else none

/-- Whether a text without a sign begins like a whole number of radix ten and goes on like no other
value. -/
def isDecimal (s : List Char) : Bool :=
  let (digits, rest) := s.span Text.isDigit
  match rest with
  | [] => digits == ['0'] || digits.head?.any (· != '0')
  | '_' :: _ => digits.head? != some '0' && !rest.any fun c => c == '.' || c == 'e' || c == 'E'
  | _ => false

def integer? (literal : List Char) : Option Document :=
  match literal with
  | '0' :: 'x' :: digits => radixed? 16 digits literal
  | '0' :: 'o' :: digits => radixed? 8 digits literal
  | '0' :: 'b' :: digits => radixed? 2 digits literal
  | _ =>
    let (negative, s) := signed literal
    if isDecimal s && isGrouped isHexDigit literal then some (whole 10 negative s literal) else none

/-- Whether a decimal with these digits and this exponent of ten rounds to infinity. Far from the
border the place of the first digit decides. -/
def overflows (digits : List Nat) (exponent : Int) : Bool :=
  let n := Text.valueIn 10 digits
  let place : Int := (Nat.toDigits 10 n).length + exponent
  if n = 0 || place < 300 then false
  else if 310 < place then true
  else
    let (up, down) := (exponent.toNat, (-exponent).toNat)
    Binary64.round (n * Nat.pow 10 up * Binary64.unit) (Nat.pow 10 down) == .infinite

/-- The digits of a run of digits and underscores, at least one, and what follows the run. -/
def digitRun? (s : List Char) : Option (List Nat × List Char) :=
  let (run, rest) := s.span fun c => Text.isDigit c || c == '_'
  match (ungrouped run).mapM (Text.digitIn? 10) with
  | some (d :: ds) => some (d :: ds, rest)
  | _ => none

/-- The digits after a point, if one comes next. -/
def decimals? : List Char → Option (List Nat × List Char)
  | '.' :: s => digitRun? s
  | s => some ([], s)

/-- The exponent of ten after its letter, if one comes next. -/
def scale? : List Char → Option (Int × List Char)
  | [] => some (0, [])
  | c :: s =>
    if c == 'e' || c == 'E' then
      let (negative, s) := signed s
      (digitRun? s).map fun (ds, s) =>
        let n : Int := Text.valueIn 10 ds
        (if negative then -n else n, s)
    else some (0, c :: s)

/-- A number with a fraction, an exponent or both, or one of the two words for no finite number. -/
def real? (literal : List Char) : Option Document :=
  let (_, s) := signed literal
  if s = ['i', 'n', 'f'] || s = ['n', 'a', 'n'] then some (.real (String.ofList literal))
  else do
    let (ds, rest) ← digitRun? s
    let (fs, tail) ← decimals? rest
    let (exponent, tail) ← scale? tail
    if !tail.isEmpty || rest.isEmpty || (s.head? == some '0' && 1 < ds.length)
      || !isGrouped Text.isDigit literal then none
    else if overflows (ds ++ fs) (exponent - fs.length) then
      pure (.invalidNumber (String.ofList literal))
    else pure (.real (String.ofList literal))

/-! ## Points in time -/

def isLeapYear (year : Nat) : Bool := (year % 4 = 0 && year % 100 ≠ 0) || year % 400 = 0

def daysIn (year month : Nat) : Nat :=
  if month = 2 then (if isLeapYear year then 29 else 28)
  else if month = 4 || month = 6 || month = 9 || month = 11 then 30
  else 31

/-- What follows a date that exists. -/
def date? : List Char → Option (List Char)
  | y₁ :: y₂ :: y₃ :: y₄ :: '-' :: m₁ :: m₂ :: '-' :: d₁ :: d₂ :: s => do
    let year ← Text.fixed? 10 [y₁, y₂, y₃, y₄]
    let month ← Text.fixed? 10 [m₁, m₂]
    let day ← Text.fixed? 10 [d₁, d₂]
    if 1 ≤ month && month ≤ 12 && 1 ≤ day && day ≤ daysIn year month then some s else none
  | _ => none

/-- What follows two digits of a number not above a bound. -/
def twoDigits? (bound : Nat) : List Char → Option (List Char)
  | a :: b :: s => do
    let n ← Text.fixed? 10 [a, b]
    if n ≤ bound then some s else none
  | _ => none

/-- What follows a fraction of a second, if there is one. -/
def secondFraction? : List Char → Option (List Char)
  | '.' :: s =>
    let (digits, s) := s.span Text.isDigit
    if digits.isEmpty then none else some s
  | s => some s

/-- What follows a time of day; its seconds may be left out. -/
def time? (s : List Char) : Option (List Char) := do
  let s ← twoDigits? 23 s
  let s ← if s.head? == some ':' then twoDigits? 59 s.tail else none
  if s.head? == some ':' then
    let s ← twoDigits? 60 s.tail
    secondFraction? s
  else pure s

/-- Whether a text is an offset from universal time, a time of day after a sign. -/
def isOffset : List Char → Bool
  | ['Z'] => true
  | ['z'] => true
  | [sign, h₁, h₂, ':', m₁, m₂] =>
    (sign == '+' || sign == '-') && twoDigits? 23 [h₁, h₂] == some [] &&
      twoDigits? 59 [m₁, m₂] == some []
  | _ => false

/-- Whether a text is a time of day, an offset allowed after it or not. -/
def isTime (offset : Bool) (s : List Char) : Bool :=
  match time? s with
  | some rest => rest.isEmpty || (offset && isOffset rest)
  | none => false

/-- A date, a time, or both with a separator between them. -/
def moment? (s : List Char) : Option Document :=
  let holds := match date? s with
    | some [] => true
    | some (c :: rest) => (c == 'T' || c == 't' || c == ' ') && isTime true rest
    | none => isTime false s
  if holds then some (.moment (String.ofList s)) else none

/-- Whether a text is a date and nothing more. -/
def isDate (s : List Char) : Bool := date? s == some []

/-! ## Any of them -/

def boolean? (s : List Char) : Option Document :=
  if s = "true".toList then some (.boolean true)
  else if s = "false".toList then some (.boolean false)
  else none

/-- The value an unquoted text stands for. -/
def scalar? (s : List Char) : Option Document :=
  boolean? s <|> integer? s <|> real? s <|> moment? s

end UnitOfWork.Document.Toml
