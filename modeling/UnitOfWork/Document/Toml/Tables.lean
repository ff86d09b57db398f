import UnitOfWork.Document

/-!
# Tables under construction

Statements of a TOML text put values into tables that may not exist yet. What may still be added to a
table depends on how it came to be: a table of its own header is closed to dotted keys from elsewhere
and to a second header; a table that only the path of a header named may get a header later; a table
that a dotted key made takes further dotted keys and no header. A value written in one place, an inline
table among them, is closed to everything.
-/

set_option autoImplicit false

namespace UnitOfWork.Document.Toml

/-- How a table came to be. -/
inductive Origin where
  | header
  /-- On the path of another table's header. -/
  | path
  /-- By a dotted key. -/
  | dotted
deriving DecidableEq, Repr

/-- A member of a table under construction. -/
inductive Node where
  | value (d : Document)
  | table (origin : Origin) (members : List (String × Node))
  /-- Tables of one repeated header, the last one open. -/
  | tables (closed : List (List (String × Node))) (last : List (String × Node))

/-- The members of a table under construction, in the order they were made. -/
abbrev Members := List (String × Node)

namespace Members

/-- The member under a name. -/
def find? (name : String) (ms : Members) : Option Node := ms.lookup name

/-- The members with one put in the place of its name, or after all others. -/
def put (name : String) (node : Node) : Members → Members
  | [] => [(name, node)]
  | (other, old) :: rest =>
    if other = name then (name, node) :: rest else (other, old) :: put name node rest

/-- Change the table at a path of header names. Tables missing on the way are made; of repeated tables
the last one is meant. -/
def within (change : Members → Option Members) : List String → Members → Option Members
  | [], ms => change ms
  | name :: path, ms =>
    match ms.find? name with
    | none => (within change path []).map fun sub => ms.put name (.table .path sub)
    | some (.table origin sub) =>
      (within change path sub).map fun sub => ms.put name (.table origin sub)
    | some (.tables closed last) =>
      (within change path last).map fun last => ms.put name (.tables closed last)
    | some (.value _) => none

/-- Add the value of a dotted key. Tables that dotted keys or paths of headers made may be passed
through, but the value must come to stand in one that a dotted key made. -/
def insert (last : String) (value : Document) : List String → Members → Option Members
  | [], ms => if (ms.find? last).isSome then none else some (ms.put last (.value value))
  | name :: path, ms =>
    match ms.find? name with
    | none => (insert last value path []).map fun sub => ms.put name (.table .dotted sub)
    | some (.table .dotted sub) =>
      (insert last value path sub).map fun sub => ms.put name (.table .dotted sub)
    | some (.table .path sub) =>
      if path.isEmpty then none
      else (insert last value path sub).map fun sub => ms.put name (.table .path sub)
    | some (.tables closed opened) =>
      if path.isEmpty then none
      else (insert last value path opened).map fun opened => ms.put name (.tables closed opened)
    | some (.table .header _) => none
    | some (.value _) => none

/-- Give a table its header. -/
def openTable (name : String) (ms : Members) : Option Members :=
  match ms.find? name with
  | none => some (ms.put name (.table .header []))
  | some (.table .path sub) => some (ms.put name (.table .header sub))
  | some _ => none

/-- Begin another table of a repeated header. -/
def openNext (name : String) (ms : Members) : Option Members :=
  match ms.find? name with
  | none => some (ms.put name (.tables [] []))
  | some (.tables closed last) => some (ms.put name (.tables (closed ++ [last]) []))
  | some _ => none

end Members

mutual

/-- What a member stands for once nothing more is added. -/
def Node.finished : Node → Document
  | .value d => d
  | .table _ ms => .table (finishedMembers ms)
  | .tables closed last =>
    .list (finishedTables closed ++ [.table (finishedMembers last)])

def finishedMembers : List (String × Node) → List (Quoted × Document)
  | [] => []
  | (name, node) :: rest => (some name, node.finished) :: finishedMembers rest

def finishedTables : List (List (String × Node)) → List Document
  | [] => []
  | ms :: rest => .table (finishedMembers ms) :: finishedTables rest

end

end UnitOfWork.Document.Toml
