/-!
# The log

A log is the list of lines recorded so far and the spans now entered. A line carries its entry and
the spans that enclosed it, outermost first. Recording is an action of `LogM`; every other part of the
library builds its state over that monad, so its lines interleave in the order of the calls.
-/

set_option autoImplicit false

namespace UnitOfWork

namespace Log

inductive Level where
  | debug
  | info
  | warn
  | error
deriving DecidableEq, Repr

def Level.text : Level → String
  | .debug => "DEBUG"
  | .info => "INFO"
  | .warn => "WARN"
  | .error => "ERROR"

/-- What is recorded: a level, a fixed message and the fields with their texts. -/
structure Entry where
  level : Level
  message : String
  fields : List (String × String) := []
deriving DecidableEq, Repr

/-- An entry and the spans around it. -/
structure Line where
  entry : Entry
  spans : List String
deriving DecidableEq, Repr

end Log

/-- The lines so far and the spans now entered, outermost first. -/
structure Log where
  lines : Array Log.Line := #[]
  spans : List String := []
deriving Repr

/-- Computations that record. -/
abbrev LogM := StateM Log

namespace Log

/-- Append a line inside the spans now entered. -/
def record (entry : Entry) : LogM Unit :=
  modify fun log => { log with lines := log.lines.push ⟨entry, log.spans⟩ }

/-- Enter a span inside those already entered. -/
def enter (span : String) : LogM Unit :=
  modify fun log => { log with spans := log.spans ++ [span] }

/-- Leave the innermost span. -/
def leave : LogM Unit :=
  modify fun log => { log with spans := log.spans.dropLast }

/-- Monads with a log whose spans can be entered and left. -/
class Spans (m : Type → Type) where
  enter : String → m Unit
  leave : m Unit

instance : Spans LogM := ⟨enter, leave⟩

instance {σ : Type} {m : Type → Type} [Monad m] [Spans m] : Spans (StateT σ m) :=
  ⟨fun span => StateT.lift (Spans.enter span), StateT.lift Spans.leave⟩

/-- Run a computation inside a span. -/
def within {m : Type → Type} [Monad m] [Spans m] {α : Type} (span : String) (run : m α) : m α := do
  Spans.enter span
  let result ← run
  Spans.leave
  pure result

/-- The field of a text that may be absent. -/
def optional (name : String) : Option String → List (String × String)
  | none => []
  | some text => [(name, text)]

end Log

end UnitOfWork
