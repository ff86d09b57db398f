import UnitOfWork.ConnectionString.Validation
import UnitOfWork.Log
import UnitOfWork.Provider.Classifier

/-!
# The provider registry

A registry maps names in normal form to entries: a provider, an allow list and connection rules. It is
kept as a list in the order of the names, each name once, so the names it reports are sorted without
further work. Registering a name again replaces its entry and touches no other name.
-/

set_option autoImplicit false

namespace UnitOfWork

namespace Provider

/-- What a registered name leads to. -/
structure Entry where
  provider : Provider
  classifier : Classifier
  rules : ConnectionString.Rules
deriving DecidableEq, Repr

/-- The provider's own allow list and rules. -/
def entry (p : Provider) : Entry := ⟨p, p.classifier, ConnectionString.Rules.of p⟩

/-- The provider's own rules with another allow list. -/
def entryWith (p : Provider) (classifier : Classifier) : Entry := { p.entry with classifier }

/-- The entry under a name. -/
def lookup? (normal : String) : List (String × Entry) → Option Entry
  | [] => none
  | (name, entry) :: rest => if name = normal then some entry else lookup? normal rest

/-- The entries with one more or one replaced, still in the order of the names. The list stands for a
hash map: names are told apart, and the order in which a map would keep them is never seen. -/
def place (normal : String) (entry : Entry) : List (String × Entry) → List (String × Entry)
  | [] => [(normal, entry)]
  | (name, old) :: rest =>
    if name = normal then (normal, entry) :: rest
    else if normal < name then (normal, entry) :: (name, old) :: rest
    else (name, old) :: place normal entry rest

end Provider

/-- Names in normal form with their entries, in the order of the names. -/
structure Registry where
  entries : List (String × Provider.Entry)
deriving DecidableEq, Repr

namespace Registry

/-- No names at all. -/
def empty : Registry := ⟨[]⟩

/-- Every provider under each of its spellings. -/
def builtin : Registry :=
  ⟨(Provider.all.flatMap fun p => p.spellings.map fun name => (name, p.entry)).foldl
    (fun entries (name, entry) => Provider.place name entry entries) []⟩

/-- The entry registered under a name. -/
def resolve (registry : Registry) (name : String) : Except LookupError Provider.Entry :=
  let normal := Provider.normalAlias name
  if normal.isEmpty then .error .emptyAlias
  else match Provider.lookup? normal registry.entries with
    | some entry => .ok entry
    | none => .error (.unknownProvider normal)

/-- Register an entry under a name; the entry it replaces comes back with the new registry. -/
def register (registry : Registry) (name : String) (entry : Provider.Entry) :
    Except LookupError (Option Provider.Entry × Registry) :=
  let normal := Provider.normalAlias name
  if normal.isEmpty then .error .emptyAlias
  else .ok (Provider.lookup? normal registry.entries,
    ⟨Provider.place normal entry registry.entries⟩)

/-- The log entry of a registration. -/
def registeringEntry (name : String) (entry : Provider.Entry) : Log.Entry :=
  ⟨.debug, "Registering provider alias",
    [("alias", Provider.normalAlias name), ("provider", entry.provider.name)]⟩

/-- Register an entry and log it; what is refused leaves no line. -/
def registerLogging (registry : Registry) (name : String) (entry : Provider.Entry) :
    LogM (Except LookupError (Option Provider.Entry × Registry)) :=
  match registry.register name entry with
  | .error e => pure (.error e)
  | .ok done => do
    Log.record (registeringEntry name entry)
    pure (.ok done)

/-- Whether a name resolves. -/
def contains (registry : Registry) (name : String) : Bool := (registry.resolve name).toBool

/-- The registered names in order. They stand so in the list already; the keys of a hash map would have
to be sorted here, and as no name occurs twice there is one order to sort them into. -/
def names (registry : Registry) : List String := registry.entries.map Prod.fst

/-- The verdict on a connection string for the entry registered under a name. -/
def validate (registry : Registry) (name raw : String) : ConnectionString.Verdict :=
  if (Provider.normalAlias name).isEmpty then .missingProvider
  else match registry.resolve name with
    | .ok entry => entry.rules.validate raw
    | .error _ => .unsupportedProvider name

end Registry

end UnitOfWork
