import UnitOfWork.Classification

/-!
# Refusals

The failures any part of the library can meet: settings that are missing or wrong, an input a reader
turns down, and a broken invariant of its own. None of them goes away by repeating the call.
-/

set_option autoImplicit false

namespace UnitOfWork

/-- A failure that no driver raised. -/
inductive Refusal where
  /-- Settings that are missing or invalid; the field, when one is to blame. -/
  | config (message : String) (field : Option String)
  /-- An input that a reader turned down; its text, when it is echoed. -/
  | validation (field message : String) (value : Option String)
  /-- A broken invariant. -/
  | internal (message : String)
deriving DecidableEq, Repr

namespace Refusal

def message : Refusal → String
  | .config message none => s!"configuration error: {message}"
  | .config message (some field) => s!"configuration error in '{field}': {message}"
  | .validation field message none => s!"invalid {field}: {message}"
  | .validation field message (some value) => s!"invalid {field} '{value}': {message}"
  | .internal message => s!"internal error: {message}"

/-- The setting or input to blame, if any. -/
def field : Refusal → Option String
  | .config _ field => field
  | .validation field _ _ => some field
  | .internal _ => none

/-- The echoed input, if any. -/
def value : Refusal → Option String
  | .validation _ _ value => value
  | _ => none

/-- Only a broken invariant puts data at risk. -/
instance : Classified Refusal where
  classify
    | .internal _ => ⟨false, .critical, true, none⟩
    | _ => .plain

end Refusal

end UnitOfWork
