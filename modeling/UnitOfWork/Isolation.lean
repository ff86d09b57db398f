import UnitOfWork.Refusal
import UnitOfWork.Text.Blank

/-!
# Isolation levels

A level is read liberally and written in one way. Reading drops blanks, underscores and hyphens and
ignores ASCII case, so keyword, snake, camel and kebab spellings all name the same level; the written
form is the SQL keyword text, which reads back.
-/

set_option autoImplicit false

namespace UnitOfWork

/-- What a transaction asks of its engine. -/
inductive IsolationLevel where
  | readUncommitted
  | readCommitted
  | repeatableRead
  | serializable
  /-- Row versioning; engines without it take their closest level. -/
  | snapshot
deriving DecidableEq, Repr

namespace IsolationLevel

/-- Every level, in the order of declaration. -/
def all : List IsolationLevel :=
  [.readUncommitted, .readCommitted, .repeatableRead, .serializable, .snapshot]

/-- The level of a unit of work that names none. -/
instance : Inhabited IsolationLevel := ⟨.readCommitted⟩

/-- The SQL keyword text. -/
def sql : IsolationLevel → String
  | .readUncommitted => "READ UNCOMMITTED"
  | .readCommitted => "READ COMMITTED"
  | .repeatableRead => "REPEATABLE READ"
  | .serializable => "SERIALIZABLE"
  | .snapshot => "SNAPSHOT"

/-- Whether reads stay stable for the whole transaction. -/
def isRepeatable : IsolationLevel → Bool
  | .readUncommitted => false
  | .readCommitted => false
  | _ => true

/-- Characters that separate words in some spelling. -/
def isSeparator (c : Char) : Bool := Text.isBlank c || c == '_' || c == '-'

/-- A spelling without its separators, in small letters. -/
def squash (s : List Char) : List Char := Text.lower (s.filter fun c => !isSeparator c)

/-- The level with a squashed spelling. -/
def ofSquashed? (s : List Char) : Option IsolationLevel :=
  all.find? fun level => squash level.sql.toList == s

/-- The level that a text names. The refusal echoes the text as it was given. -/
def parse (s : String) : Except Refusal IsolationLevel :=
  match ofSquashed? (squash s.toList) with
  | some level => .ok level
  | none => .error (.validation "isolation_level" "unknown isolation level" (some s))

end IsolationLevel

end UnitOfWork
