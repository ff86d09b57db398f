import UnitOfWork.Document.Json.Reader
import UnitOfWork.Document.Json.Writer
import UnitOfWork.Document.Toml.Reader
import UnitOfWork.Settings.Basic
import UnitOfWork.Text.Numeral

/-!
# Settings as documents

A record is written as a table of its fields. It is read from a table, where names that are no field
count for nothing, absent fields take their defaults and a field given twice is a fault; or from a list
of its fields in order, where fields at the end may be left out. The two notations differ in one thing:
a list with items past the last field is a fault in JSON and cut in TOML.

Spans of time are whole milliseconds of 64 bits. What a span has below a millisecond is dropped in
writing, and a longer span is written as the longest.
-/

set_option autoImplicit false

namespace UnitOfWork

namespace Document

/-- What becomes of items of a list past the last field of a record. -/
inductive Excess where
  | fault
  | cut
deriving DecidableEq, Repr

/-- The fields of a record that a document gives, among the names of all its fields. Members of other
names are looked at and dropped; items that are cut are not looked at. A point in time counts as a table
of other names. -/
def fields? (excess : Excess) (names : List String) : Document → Option (List (String × Document))
  | .table members => do
    let named ← members.mapM fun (name, x) => name.map (·, x)
    let (given, other) := named.partition fun (name, _) => names.contains name
    if (given.map Prod.fst).Nodup ∧ other.all (·.2.isSound) then pure given else none
  | .list items =>
    if excess = .fault ∧ names.length < items.length then none else some (names.zip items)
  | .moment _ => some []
  | _ => none

/-- A field that may be absent. -/
def field {α : Type} (given : List (String × Document)) (name : String)
    (read : Document → Option α) (default : α) : Option α :=
  match given.lookup name with
  | none => some default
  | some d => read d

/-- A whole number from zero to a limit. -/
def count? (limit : Nat) : Document → Option Nat
  | .integer n => if 0 ≤ n ∧ n ≤ limit then some n.toNat else none
  | _ => none

def boolean? : Document → Option Bool
  | .boolean b => some b
  | _ => none

/-- A span of time. -/
def span? (d : Document) : Option Duration := (d.count? Text.limit64).map Duration.ofMillis

def ofSpan (d : Duration) : Document := .integer d.storedMillis

/-- A level in any of its spellings. -/
def isolation? : Document → Option IsolationLevel
  | .text (some s) => (IsolationLevel.parse s).toOption
  | _ => none

def ofIsolation (level : IsolationLevel) : Document := .text (some level.sql)

/-- A provider by its canonical name, as a text or as the name of an empty member. -/
def provider? : Document → Option Provider
  | .text (some s) => Provider.all.find? fun p => p.name == s
  | .table [(some s, .null)] => Provider.all.find? fun p => p.name == s
  | _ => none

def ofProvider (p : Provider) : Document := .text (some p.name)

/-- A record whose only field is a span of time, which has no default. -/
def spanField? (name : String) (d : Document) : Option Duration := do
  let given ← d.fields? .fault [name]
  let x ← given.lookup name
  x.span?

def ofSpanField (name : String) (d : Duration) : Document := .table [(some name, ofSpan d)]

end Document

namespace ScopeOptions

/-- The options a document gives. -/
def ofDocument? (excess : Document.Excess) (d : Document) : Option ScopeOptions := do
  let given ← d.fields? excess ["isolation", "prefer_ambient"]
  let default : ScopeOptions := {}
  let isolation ← Document.field given "isolation" Document.isolation? default.isolation
  let preferAmbient ←
    Document.field given "prefer_ambient" Document.boolean? default.preferAmbient
  pure { isolation, preferAmbient }

def document (o : ScopeOptions) : Document :=
  .table [(some "isolation", .ofIsolation o.isolation),
    (some "prefer_ambient", .boolean o.preferAmbient)]

end ScopeOptions

namespace RetrySettings

/-- The settings a document gives. -/
def ofDocument? (excess : Document.Excess) (d : Document) : Option RetrySettings := do
  let given ← d.fields? excess ["max_attempts", "base_delay_ms", "max_delay_ms", "jitter"]
  let default : RetrySettings := {}
  let maxAttempts ← Document.field given "max_attempts"
    (fun d => (d.count? Text.limit32).map UInt32.ofNat) default.maxAttempts
  let baseDelay ← Document.field given "base_delay_ms" Document.span? default.baseDelay
  let maxDelay ← Document.field given "max_delay_ms" Document.span? default.maxDelay
  let jitter ← Document.field given "jitter" Document.boolean? default.jitter
  pure { maxAttempts, baseDelay, maxDelay, jitter }

def document (s : RetrySettings) : Document :=
  .table [(some "max_attempts", .integer s.maxAttempts.toNat),
    (some "base_delay_ms", .ofSpan s.baseDelay), (some "max_delay_ms", .ofSpan s.maxDelay),
    (some "jitter", .boolean s.jitter)]

end RetrySettings

namespace Settings

/-- The settings a document gives. -/
def ofDocument? (excess : Document.Excess) (d : Document) : Option Settings := do
  let given ← d.fields? excess ["retry", "transaction"]
  let retry ← Document.field given "retry" (RetrySettings.ofDocument? excess) {}
  let scope ← Document.field given "transaction" (ScopeOptions.ofDocument? excess) {}
  pure { retry, scope }

def document (s : Settings) : Document :=
  .table [(some "retry", s.retry.document), (some "transaction", s.scope.document)]

/-- The settings of a JSON text. -/
def ofJson? (text : String) : Option Settings := (Document.Json.read text).bind (ofDocument? .fault)

/-- The settings of a TOML text. -/
def ofToml? (text : String) : Option Settings := (Document.Toml.read text).bind (ofDocument? .cut)

/-- The settings as a JSON text. -/
def json (s : Settings) : String := Document.Json.write s.document

end Settings

end UnitOfWork
