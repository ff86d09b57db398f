import UnitOfWork.Provider.Kind
import UnitOfWork.Refusal
import UnitOfWork.Text.Blank

/-!
# Looking a provider up by name

A name is compared in its normal form: blanks taken off both ends, ASCII capitals made small. A blank
name and an unknown one are different failures; the unknown one is reported in normal form.
-/

set_option autoImplicit false

namespace UnitOfWork

/-- Why a provider name leads nowhere. -/
inductive LookupError where
  | emptyAlias
  | unknownProvider (name : String)
  | refused (refusal : Refusal)
deriving DecidableEq, Repr

namespace LookupError

def message : LookupError → String
  | .emptyAlias => "provider name is empty"
  | .unknownProvider name => s!"no provider registered under '{name}'"
  | .refused refusal => refusal.message

instance : Classified LookupError where
  classify
    | .refused refusal => classify refusal
    | _ => .plain

end LookupError

namespace Provider

/-- The form in which names are compared. -/
def normalAlias (name : String) : String := String.ofList (Text.lower (Text.trim name.toList))

/-- The provider spelled by `name`, the first in declaration order. -/
def ofAlias (name : String) : Except LookupError Provider :=
  let normal := normalAlias name
  if normal.isEmpty then .error .emptyAlias
  else match all.find? fun p => p.spellings.contains normal with
    | some p => .ok p
    | none => .error (.unknownProvider normal)

end Provider

end UnitOfWork
