import QueryText.Error

/-!
# Dialects

The database products whose statements the library writes, with the fragments in which they differ
and that depend on nothing else.
-/

set_option autoImplicit false

namespace QueryText

inductive Dialect where
  | sqlServer
  | sqlite
  | mySql
  | postgreSql
  | oracle
  | firebird
  deriving DecidableEq

namespace Dialect

def all : List Dialect :=
  [.sqlServer, .sqlite, .mySql, .postgreSql, .oracle, .firebird]

def name : Dialect → String
  | .sqlServer => "SqlServer"
  | .sqlite => "Sqlite"
  | .mySql => "MySql"
  | .postgreSql => "PostgreSql"
  | .oracle => "Oracle"
  | .firebird => "Firebird"

def configName : Dialect → String
  | .sqlServer => "sqlserver"
  | .sqlite => "sqlite"
  | .mySql => "mysql"
  | .postgreSql => "postgresql"
  | .oracle => "oracle"
  | .firebird => "firebird"

def ofConfigName? (name : String) : Option Dialect :=
  all.find? fun dialect => dialect.configName == name

instance : Inhabited Dialect where
  default := .sqlServer

def now : Dialect → String
  | .sqlServer => "GETDATE()"
  | .sqlite => "DATETIME(CURRENT_TIMESTAMP, 'localtime')"
  | .mySql => "NOW()"
  | .postgreSql => "now()"
  | .oracle => "SYSDATE"
  | .firebird => "CURRENT_TIMESTAMP"

def markerSign : Dialect → Char
  | .sqlServer | .sqlite | .firebird => '@'
  | .mySql => '?'
  | .postgreSql | .oracle => ':'

def marker (dialect : Dialect) (name : String) : String :=
  String.ofList (dialect.markerSign :: name.toList)

def lastKeyStatement : Dialect → Except RenderError String
  | .sqlServer => .ok "SELECT SCOPE_IDENTITY()"
  | .sqlite => .ok "SELECT last_insert_rowid()"
  | .mySql => .ok "SELECT LAST_INSERT_ID()"
  | dialect => .error (.unsupportedByDialect dialect.name "identity select")

end Dialect

end QueryText
