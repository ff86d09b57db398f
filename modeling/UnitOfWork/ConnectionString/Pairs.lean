import UnitOfWork.Text.Blank

/-!
# Connection strings as pairs

A connection string is a row of segments between semicolons. Blank segments count for nothing; every
other segment is a key, an equals sign and a value. A key is kept in normal form: its words in small
letters, one space between them. A value loses the blanks around it and then one pair of quotes of one
kind, so a quoted value may begin or end with blanks. Nothing is escaped, and a semicolon always ends
a segment.
-/

set_option autoImplicit false

namespace UnitOfWork.ConnectionString

/-- A key in normal form and its value. -/
structure Pair where
  key : String
  value : String
deriving DecidableEq, Repr

/-- The words of a key in small letters, one space between them. -/
def normalKey (key : List Char) : List Char :=
  Text.lower ([' '].intercalate (Text.words key))

/-- What stands between two quotes of one kind, if a text is of that form. -/
def between? (quote : Char) : List Char → Option (List Char)
  | c :: rest => if c == quote && rest.getLast? == some quote then some rest.dropLast else none
  | [] => none

/-- A value without one pair of quotes around it. -/
def unquote (value : List Char) : List Char :=
  match between? '"' value with
  | some inner => inner
  | none => (between? '\'' value).getD value

/-- The pair of a segment without blanks at its ends; none without an equals sign or without a
key before the first one. -/
def pair? (segment : List Char) : Option Pair :=
  match segment.dropWhile (· != '=') with
  | [] => none
  | _ :: value =>
    let key := Text.trim (segment.takeWhile (· != '='))
    if key.isEmpty then none
    else some ⟨String.ofList (normalKey key), String.ofList (unquote (Text.trim value))⟩

/-- The pairs of a row of segments, or the first segment that is none, without blanks at its
ends. -/
def pairsOf : List (List Char) → Except String (List Pair)
  | [] => .ok []
  | segment :: rest =>
    let segment := Text.trim segment
    if segment.isEmpty then pairsOf rest
    else match pair? segment with
      | none => .error (String.ofList segment)
      | some pair => (pairsOf rest).map (pair :: ·)

/-- The segments of a text. -/
def segments (raw : List Char) : List (List Char) := Text.pieces (· == ';') raw

/-- The pairs of a connection string, in the order of their segments. -/
def pairs (raw : String) : Except String (List Pair) := pairsOf (segments raw.toList)

/-- A pair with its value in quotes. -/
def Pair.quoted (p : Pair) : List Char :=
  p.key.toList ++ ['=', '"'] ++ p.value.toList ++ ['"']

/-- The pairs as a connection string with every value in quotes. -/
def render (ps : List Pair) : String :=
  String.ofList ([';'].intercalate (ps.map Pair.quoted))

end UnitOfWork.ConnectionString
