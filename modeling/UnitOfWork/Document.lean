/-!
# Documents

A document is what a text in a data notation stands for. One type serves every notation: what a notation
cannot write is simply never read from it. Members of a table keep the order and the number in which
they were written, so that whoever reads a table decides what a repeated name means.

Numbers that are not whole, and points in time, keep their written form only: nothing in the library
computes with them. The form of a number may also hold what is no number; that is a fault only for
whoever looks at it.
-/

set_option autoImplicit false

namespace UnitOfWork

/-- What a quoted text stands for. It is missing when an escape names half of a surrogate pair, which
no text holds; such a text is a fault only for whoever looks at it. -/
abbrev Document.Quoted := Option String

/-- A value of a data notation. -/
inductive Document where
  | null
  | boolean (value : Bool)
  /-- A whole number. Negative zero is none. -/
  | integer (value : Int)
  | real (literal : String)
  /-- A text of the form of a number that stands for none. -/
  | invalidNumber (literal : String)
  | moment (literal : String)
  | text (value : Document.Quoted)
  | list (items : List Document)
  | table (members : List (Document.Quoted × Document))

namespace Document

mutual

/-- Whether whoever looks at every part of a document finds a value for every number. -/
def isSound : Document → Bool
  | .invalidNumber _ => false
  | .list items => areSound items
  | .table members => membersAreSound members
  | _ => true

def areSound : List Document → Bool
  | [] => true
  | x :: rest => x.isSound && areSound rest

def membersAreSound : List (Quoted × Document) → Bool
  | [] => true
  | (_, x) :: rest => x.isSound && membersAreSound rest

end

end Document

end UnitOfWork
