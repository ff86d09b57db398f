/-!
# Providers

A provider is a relational engine the library knows by name. Its canonical name and its other
spellings are small letters already, so a look-up only has to normalise what it is given.
-/

set_option autoImplicit false

namespace UnitOfWork

/-- The engines with an allow list and connection rules of their own. -/
inductive Provider where
  | sqlServer
  | postgreSql
  | mySql
  | sqlite
  | oracle
deriving DecidableEq, Repr

namespace Provider

/-- Every provider, in the order of declaration. -/
def all : List Provider := [.sqlServer, .postgreSql, .mySql, .sqlite, .oracle]

/-- The canonical name. -/
def name : Provider → String
  | .sqlServer => "sqlserver"
  | .postgreSql => "postgresql"
  | .mySql => "mysql"
  | .sqlite => "sqlite"
  | .oracle => "oracle"

/-- The other accepted spellings. -/
def aliases : Provider → List String
  | .sqlServer => ["mssql", "sql server", "microsoft.data.sqlclient"]
  | .postgreSql => ["postgres", "pgsql", "npgsql"]
  | .mySql => ["mariadb", "mysqlconnector"]
  | .sqlite => ["sqlite3", "microsoft.data.sqlite"]
  | .oracle => ["oracle.manageddataaccess", "odp.net"]

/-- The canonical name and the other spellings. -/
def spellings (p : Provider) : List String := p.name :: p.aliases

/-- The table of providers leaves none out. -/
theorem mem_all (p : Provider) : p ∈ all := by cases p <;> decide

end Provider

end UnitOfWork
