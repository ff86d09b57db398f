import UnitOfWork.Provider.Kind

/-!
# Connection rules

Every provider has its rules: the keys it knows, those whose values are integers or booleans, and the
groups of keys of which one must be given. Keys stand in normal form.
-/

set_option autoImplicit false

namespace UnitOfWork.ConnectionString

/-- The keys of one provider. -/
structure Rules where
  provider : Provider
  /-- Each group is satisfied by any one of its keys with a value. -/
  required : List (List String)
  known : List String
  integer : List String
  boolean : List String
deriving DecidableEq, Repr

namespace Rules

def isKnown (r : Rules) (key : String) : Bool := r.known.contains key

def isInteger (r : Rules) (key : String) : Bool := r.integer.contains key

def isBoolean (r : Rules) (key : String) : Bool := r.boolean.contains key

def sqlServer : Rules where
  provider := .sqlServer
  required := [["server", "data source", "address", "addr", "network address"]]
  known :=
    ["server", "data source", "address", "addr", "network address", "database", "initial catalog",
      "user id", "uid", "user", "password", "pwd", "integrated security", "trusted_connection",
      "encrypt", "trustservercertificate", "trust server certificate", "connect timeout",
      "connection timeout", "timeout", "command timeout", "application name", "app",
      "applicationintent", "multipleactiveresultsets", "multisubnetfailover", "pooling",
      "min pool size", "max pool size", "packet size", "persist security info", "workstation id",
      "failover partner", "connectretrycount", "connectretryinterval"]
  integer :=
    ["connect timeout", "connection timeout", "timeout", "command timeout", "min pool size",
      "max pool size", "packet size", "connectretrycount", "connectretryinterval"]
  boolean :=
    ["trusted_connection", "trustservercertificate", "trust server certificate",
      "multipleactiveresultsets", "multisubnetfailover", "pooling", "persist security info"]

def postgreSql : Rules where
  provider := .postgreSql
  required := [["host", "server"]]
  known :=
    ["host", "server", "port", "database", "db", "username", "user id", "userid", "user",
      "password", "pwd", "ssl mode", "sslmode", "trust server certificate", "timeout",
      "command timeout", "pooling", "minimum pool size", "maximum pool size", "keepalive",
      "application name", "search path", "include error detail"]
  integer :=
    ["port", "timeout", "command timeout", "minimum pool size", "maximum pool size", "keepalive"]
  boolean := ["trust server certificate", "pooling", "include error detail"]

def mySql : Rules where
  provider := .mySql
  required := [["server", "host", "data source", "datasource", "address", "addr"]]
  known :=
    ["server", "host", "data source", "datasource", "address", "addr", "port", "database",
      "initial catalog", "user id", "uid", "user", "username", "password", "pwd", "sslmode",
      "ssl mode", "connection timeout", "connect timeout", "default command timeout", "pooling",
      "minimum pool size", "maximum pool size", "allow user variables", "allowuservariables",
      "convert zero datetime", "allow public key retrieval", "character set", "charset"]
  integer :=
    ["port", "connection timeout", "connect timeout", "default command timeout",
      "minimum pool size", "maximum pool size"]
  boolean :=
    ["pooling", "allow user variables", "allowuservariables", "convert zero datetime",
      "allow public key retrieval"]

def sqlite : Rules where
  provider := .sqlite
  required := [["data source", "datasource", "filename"]]
  known :=
    ["data source", "datasource", "filename", "mode", "cache", "password", "foreign keys",
      "recursive triggers", "default timeout", "pooling", "version", "journal mode", "synchronous",
      "read only"]
  integer := ["default timeout", "version"]
  boolean := ["foreign keys", "recursive triggers", "pooling", "read only"]

def oracle : Rules where
  provider := .oracle
  required := [["data source", "datasource"], ["user id", "uid", "user"]]
  known :=
    ["data source", "datasource", "user id", "uid", "user", "password", "pwd",
      "connection timeout", "connection lifetime", "pooling", "min pool size", "max pool size",
      "incr pool size", "decr pool size", "statement cache size", "dba privilege",
      "proxy user id", "proxy password", "validate connection", "persist security info"]
  integer :=
    ["connection timeout", "connection lifetime", "min pool size", "max pool size",
      "incr pool size", "decr pool size", "statement cache size"]
  boolean := ["pooling", "validate connection", "persist security info"]

/-- The rules of a provider. -/
def of : Provider → Rules
  | .sqlServer => sqlServer
  | .postgreSql => postgreSql
  | .mySql => mySql
  | .sqlite => sqlite
  | .oracle => oracle

end Rules

end UnitOfWork.ConnectionString
