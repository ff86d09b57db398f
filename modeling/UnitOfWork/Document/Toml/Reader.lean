import UnitOfWork.Document.Toml.Quoted
import UnitOfWork.Document.Toml.Scalar
import UnitOfWork.Document.Toml.Tables

/-!
# Reading TOML

A text is a row of statements, each on a line of its own: the header of a table, the header of a
repeated table, or a key and its value. Lists and inline tables may run over several lines, hold
comments between any two of their tokens and end with a comma; they nest at most eighty deep. A key has
at most eighty names and stands on one line. A mark of the byte order at the start of the text counts for
nothing.

The readers take characters off the front of the text and return what is left.
-/

set_option autoImplicit false

namespace UnitOfWork.Document.Toml

/-! ## Gaps -/

def skipBlanks (s : List Char) : List Char := s.dropWhile isBlank

/-- Skip blanks, line breaks and comments; the flag says whether a comment has begun. A control
character in a comment is a fault. -/
def skipGap : Bool → List Char → Option (List Char)
  | _, [] => some []
  | _, '\n' :: s => skipGap false s
  | _, '\r' :: '\n' :: s => skipGap false s
  | true, c :: s => if isPlain c then skipGap true s else none
  | false, c :: s =>
    if isBlank c then skipGap false s
    else if c == '#' then skipGap true s
    else some (c :: s)

/-- The end of a statement: the end of the text, a line break or a comment. -/
def endStatement (s : List Char) : Option (List Char) :=
  match skipBlanks s with
  | [] => some []
  | '\n' :: s => some s
  | '\r' :: '\n' :: s => some s
  | '#' :: s => skipGap true s
  | _ => none

/-! ## Keys -/

/-- A key: the names of the tables on the way, and the name in the last of them. -/
structure Key where
  path : List String
  last : String
deriving DecidableEq, Repr

/-- A character of a name without quotes. -/
def isBare (c : Char) : Bool := c.isAlphanum || c == '_' || c == '-'

/-- One name, quoted on one line or bare. -/
def name? (s : List Char) : Option (String × List Char) :=
  let read := match s with
    | '"' :: s => basicFrom 0 s
    | '\'' :: s => literal s
    | s =>
      let (name, s) := s.span isBare
      if name.isEmpty then none else some (name, s)
  read.map fun (name, s) => (String.ofList name, s)

/-- Names in a key. -/
def longest : Nat := 80

/-- A key, its names between points. The first argument bounds the names. -/
def key? : Nat → List Char → Option (Key × List Char)
  | 0, _ => none
  | steps + 1, s => do
    let (name, s) ← name? (skipBlanks s)
    match skipBlanks s with
    | '.' :: s =>
      let (key, s) ← key? steps s
      pure ({ key with path := name :: key.path }, s)
    | s => pure (⟨[], name⟩, s)

/-! ## Values -/

/-- Levels of lists and inline tables. -/
def deepest : Nat := 80

/-- The end of an unquoted value. -/
def endsAtom (c : Char) : Bool :=
  isBlank c || ['\n', '\r', '#', ',', '=', '[', ']', '\x7b', '\x7d'].contains c

/-- An unquoted value. A blank between a date and a digit joins them. -/
def atom (s : List Char) : Option (Document × List Char) :=
  let (first, rest) := s.span fun c => !endsAtom c
  let joins := isDate first &&
    match rest with
    | ' ' :: c :: _ => Text.isDigit c
    | _ => false
  if joins then
    let (second, rest) := rest.tail.span fun c => !endsAtom c
    (scalar? (first ++ ' ' :: second)).map (·, rest)
  else (scalar? first).map (·, rest)

mutual

/-- A value. The arguments bound the steps and the levels still allowed. -/
def value : Nat → Nat → List Char → Option (Document × List Char)
  | 0, _, _ => none
  | steps + 1, levels, s =>
    match s with
    | '[' :: s =>
      if levels = 0 then none
      else (items steps (levels - 1) s).map fun (xs, s) => (.list xs, s)
    | '\x7b' :: s =>
      if levels = 0 then none
      else (inline steps (levels - 1) [] s).map fun (ms, s) => (.table (finishedMembers ms), s)
    | '"' :: _ => (quoted? s).map fun (cs, s) => (.text (some (String.ofList cs)), s)
    | '\'' :: _ => (quoted? s).map fun (cs, s) => (.text (some (String.ofList cs)), s)
    | s => atom s

/-- Values between commas up to the closing bracket. -/
def items : Nat → Nat → List Char → Option (List Document × List Char)
  | 0, _, _ => none
  | steps + 1, levels, s => do
    match ← skipGap false s with
    | ']' :: s => pure ([], s)
    | s =>
      let (x, s) ← value steps levels s
      match ← skipGap false s with
      | ',' :: s =>
        let (xs, s) ← items steps levels s
        pure (x :: xs, s)
      | ']' :: s => pure ([x], s)
      | _ => none

/-- Keys with values between commas up to the closing brace, put into a table. -/
def inline : Nat → Nat → Members → List Char → Option (Members × List Char)
  | 0, _, _, _ => none
  | steps + 1, levels, ms, s => do
    match ← skipGap false s with
    | '\x7d' :: s => pure (ms, s)
    | s =>
      let (key, s) ← key? longest s
      let s ← skipGap false s
      let s ← if s.head? == some '=' then skipGap false s.tail else none
      let (x, s) ← value steps levels s
      let ms ← ms.insert key.last x key.path
      match ← skipGap false s with
      | ',' :: s => inline steps levels ms s
      | '\x7d' :: s => pure (ms, s)
      | _ => none

end

/-! ## Statements -/

/-- A line of a text. -/
inductive Statement where
  | header (key : Key)
  | repeatedHeader (key : Key)
  | pair (key : Key) (value : Document)

/-- A statement without the end of its line. -/
def statement (s : List Char) : Option (Statement × List Char) :=
  match s with
  | '[' :: '[' :: s => do
    let (key, s) ← key? longest s
    match s with
    | ']' :: ']' :: s => pure (.repeatedHeader key, s)
    | _ => none
  | '[' :: s => do
    let (key, s) ← key? longest s
    match s with
    | ']' :: s => pure (.header key, s)
    | _ => none
  | s => do
    let (key, s) ← key? longest s
    let s ← if s.head? == some '=' then some (skipBlanks s.tail) else none
    let (x, s) ← value (2 * s.length + 2) deepest s
    pure (.pair key x, s)

/-- The statements of a text. The first argument bounds their number. -/
def statements : Nat → List Char → Option (List Statement)
  | 0, _ => none
  | steps + 1, s => do
    match ← skipGap false s with
    | [] => pure []
    | s =>
      let (first, s) ← statement s
      let s ← endStatement s
      let rest ← statements steps s
      pure (first :: rest)

/-- The root table and the path of the table that keys now go to. -/
structure Building where
  root : Members := []
  current : List String := []

/-- Carry out a statement. -/
def Building.add (b : Building) : Statement → Option Building
  | .header key => do
    let root ← b.root.within (Members.openTable key.last) key.path
    pure ⟨root, key.path ++ [key.last]⟩
  | .repeatedHeader key => do
    let root ← b.root.within (Members.openNext key.last) key.path
    pure ⟨root, key.path ++ [key.last]⟩
  | .pair key x => do
    let root ← b.root.within (fun ms => ms.insert key.last x key.path) b.current
    pure { b with root }

/-- The text without a mark of the byte order at its start. -/
def dropMark : List Char → List Char
  | '\ufeff' :: s => s
  | s => s

/-- The document of a text, which is a table. Every statement takes at least one character. -/
def read (text : String) : Option Document := do
  let s := dropMark text.toList
  let lines ← statements (s.length + 1) s
  let built ← lines.foldlM Building.add {}
  pure (.table (finishedMembers built.root))

end UnitOfWork.Document.Toml
