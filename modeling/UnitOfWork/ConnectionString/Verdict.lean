import UnitOfWork.Provider.Kind
import UnitOfWork.Text.Blank

/-!
# Verdicts on connection strings

A verdict is the first problem found, or none. It has a kind, for some kinds the key it is about, and
a message for people; all three are read off the problem.
-/

set_option autoImplicit false

namespace UnitOfWork.ConnectionString

/-- What is found out about a connection string. -/
inductive Verdict where
  | ok
  | missingProvider
  | missingConnectionString
  /-- A segment that is no pair. -/
  | malformed (segment : String)
  | unsupportedProvider (name : String)
  | missingRequiredParameter (name : String)
  | unsupportedOption (key : String) (provider : Provider)
  | invalidParameterValue (key value : String)
deriving DecidableEq, Repr

namespace Verdict

def isOk : Verdict → Bool
  | .ok => true
  | _ => false

/-- The name of the kind of problem. -/
def kind : Verdict → String
  | .ok => "ok"
  | .missingProvider => "missing_provider"
  | .missingConnectionString => "missing_connection_string"
  | .malformed _ => "malformed"
  | .unsupportedProvider _ => "unsupported_provider"
  | .missingRequiredParameter _ => "missing_required_parameter"
  | .unsupportedOption .. => "unsupported_option"
  | .invalidParameterValue .. => "invalid_parameter_value"

/-- The key the problem is about. -/
def parameter : Verdict → Option String
  | .missingRequiredParameter name => some name
  | .unsupportedOption key _ => some key
  | .invalidParameterValue key _ => some key
  | _ => none

def message : Verdict → String
  | .ok => "connection string is valid"
  | .missingProvider => "no provider name given"
  | .missingConnectionString => "connection string is empty"
  | .malformed segment => s!"segment '{segment}' is not a key=value pair"
  | .unsupportedProvider name =>
    s!"provider '{String.ofList (Text.trim name.toList)}' is not supported"
  | .missingRequiredParameter name => s!"required parameter '{name}' is missing"
  | .unsupportedOption key provider => s!"option '{key}' is not recognised by {provider.name}"
  | .invalidParameterValue key value => s!"value '{value}' is not valid for '{key}'"

end Verdict

end UnitOfWork.ConnectionString
