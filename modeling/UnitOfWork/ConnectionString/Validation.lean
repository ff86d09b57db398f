import UnitOfWork.ConnectionString.Pairs
import UnitOfWork.ConnectionString.Rules
import UnitOfWork.ConnectionString.Verdict
import UnitOfWork.Provider.Alias
import UnitOfWork.Text.Numeral

/-!
# Checking a connection string

The checks run one after the other over the whole string: emptiness, the form of the segments, unknown
keys, typed values, required groups. The first check that fails gives the verdict, and within a check
the first offender does. No connection is opened.
-/

set_option autoImplicit false

namespace UnitOfWork.ConnectionString

/-- The words for a boolean, in small letters. -/
def booleanWords : List String := ["true", "yes", "1", "on", "false", "no", "0", "off"]

/-- A word for a boolean, ASCII case aside. -/
def isBooleanText (value : String) : Bool :=
  booleanWords.contains (String.ofList (Text.lower value.toList))

/-- A number of 32 bits. -/
def isIntegerText (value : String) : Bool :=
  (Text.numeral Text.limit32 value.toList).toBool

/-- Whether a value has the type its key asks for; an integer key asks for nothing else. -/
def Rules.accepts (r : Rules) (p : Pair) : Bool :=
  if r.isInteger p.key then isIntegerText p.value
  else if r.isBoolean p.key then isBooleanText p.value
  else true

/-- Whether one key of a group is given a value. -/
def isSatisfied (ps : List Pair) (group : List String) : Bool :=
  group.any fun name => ps.any fun p => p.key == name && !p.value.isEmpty

/-- The verdict on a list of pairs. -/
def Rules.judge (r : Rules) (ps : List Pair) : Verdict :=
  match ps.find? fun p => !r.isKnown p.key with
  | some p => .unsupportedOption p.key r.provider
  | none =>
    match ps.find? fun p => !r.accepts p with
    | some p => .invalidParameterValue p.key p.value
    | none =>
      match r.required.find? fun group => !isSatisfied ps group with
      | some group => .missingRequiredParameter (group.headD "")
      | none => .ok

/-- The verdict of a set of rules on a connection string. -/
def Rules.validate (r : Rules) (raw : String) : Verdict :=
  if (Text.trim raw.toList).isEmpty then .missingConnectionString
  else match pairs raw with
    | .error segment => .malformed segment
    | .ok ps => r.judge ps

/-- The verdict on a connection string for the provider of a given name. -/
def validate (provider raw : String) : Verdict :=
  if (Text.trim provider.toList).isEmpty then .missingProvider
  else match Provider.ofAlias provider with
    | .ok p => (Rules.of p).validate raw
    | .error _ => .unsupportedProvider provider

end UnitOfWork.ConnectionString
