import UnitOfWork.Driver.Fault
import UnitOfWork.Text.Blank

/-!
# Allow lists

A classifier lists the codes of one engine that are worth another attempt. A code on the list is
transient. Everything else is permanent: a code off the list, a failure without a code, and a code
that a different engine raised, since engines reuse numbers for unrelated conditions.
-/

set_option autoImplicit false

namespace UnitOfWork

/-- The transient codes of one engine. -/
structure Classifier where
  provider : Provider
  numbers : List Int
  states : List String
deriving DecidableEq, Repr

namespace Classifier

/-- Equal texts when ASCII capitals count as small letters. -/
def sameState (a b : String) : Bool := Text.lower a.toList == Text.lower b.toList

/-- Whether the list holds the code. -/
def lists (c : Classifier) : Driver.Code → Bool
  | .number n => c.numbers.contains n
  | .state s => c.states.any (sameState · s)

/-- Whether a failure is worth another attempt. -/
def isTransient {ε : Type} [Faulty ε] (c : Classifier) (e : ε) : Bool :=
  match Faulty.origin e with
  | some origin => origin == c.provider && (Faulty.code e).any c.lists
  | none => (Faulty.code e).any c.lists

end Classifier

/-- Lock contention, transport loss, and the throttling and failover family of hosted servers. -/
def Provider.sqlServerNumbers : List Int :=
  [1205, 1222, -2, 233, 64, 10053, 10054, 10060, 4060, 40197, 40501, 40613, 10928, 10929, 49918,
    49919, 49920, 3960]

/-- Serialization failures, deadlocks, unavailable locks and lost or refused connections. -/
def Provider.postgreSqlStates : List String :=
  ["40001", "40P01", "55P03", "53300", "57P03", "08000", "08001", "08003", "08004", "08006"]

/-- Too many connections, lock waits, deadlocks and a server out of reach. -/
def Provider.mySqlNumbers : List Int := [1040, 1203, 1205, 1213, 2002, 2003, 2006, 2013]

/-- A busy or locked database. -/
def Provider.sqliteNumbers : List Int := [5, 6]

/-- Session limits, busy resources, deadlocks, serialization failures and listener trouble. -/
def Provider.oracleNumbers : List Int :=
  [18, 20, 54, 60, 8177, 3113, 3114, 12170, 12516, 12519, 12520, 12541, 12543]

/-- The built-in allow list of a provider. -/
def Provider.classifier : Provider → Classifier
  | .sqlServer => ⟨.sqlServer, sqlServerNumbers, []⟩
  | .postgreSql => ⟨.postgreSql, [], postgreSqlStates⟩
  | .mySql => ⟨.mySql, mySqlNumbers, []⟩
  | .sqlite => ⟨.sqlite, sqliteNumbers, []⟩
  | .oracle => ⟨.oracle, oracleNumbers, []⟩

end UnitOfWork
