import RemoteQuery.Dialect.Athena
import RemoteQuery.Dialect.Db2
import RemoteQuery.Dialect.Generic
import RemoteQuery.Dialect.Hive
import RemoteQuery.Dialect.Impala
import RemoteQuery.Dialect.MySql
import RemoteQuery.Dialect.Name
import RemoteQuery.Dialect.Native
import RemoteQuery.Dialect.Oracle
import RemoteQuery.Dialect.PostgreSql
import RemoteQuery.Dialect.Redshift
import RemoteQuery.Dialect.SqlServer
import RemoteQuery.Dialect.Sybase
import RemoteQuery.Dialect.Teradata
import RemoteQuery.Render.Select

/-!
# RemoteQuery.Dialect.Registry

Every dialect with the target it is built into and the capabilities it
declares.  Faults of a configuration show here, never while a query is written.
-/

namespace RemoteQuery

/-- Why a request for a dialect fails. -/
inductive Error where
  | config (cause : ConfigError)
  | query (cause : QueryError)
  | unknownDialect (name : String)
deriving DecidableEq

/-- The message shown for an error. -/
def Error.message : Error → String
  | config cause => cause.message
  | query cause => cause.message
  | unknownDialect name => "Unknown dialect: '" ++ name ++ "'"

namespace Dialect

/-- The dialect of a name in any case, or the fault that there is none. -/
def ofName (s : String) : Except Error Dialect :=
  match ofName? s with
  | some d => .ok d
  | none => .error (.unknownDialect s)

/-- The target of a dialect under a configuration. -/
def target (d : Dialect) (p : Properties) : Except ConfigError Target :=
  match d with
  | athena => .ok Athena.target
  | db2 => .ok Db2.target
  | generic => Generic.target p
  | hive => .ok Hive.target
  | impala => .ok Impala.target
  | mySql => .ok MySql.target
  | native => .ok Native.target
  | oracle => Oracle.target p
  | postgreSql => .ok PostgreSql.target
  | redshift => .ok Redshift.target
  | sqlServer => .ok SqlServer.target
  | sybase => .ok Sybase.target
  | teradata => .ok Teradata.target

/-- The capabilities a dialect declares. -/
def capabilities : Dialect → CapabilitySet
  | athena => Athena.capabilities
  | db2 => Db2.capabilities
  | generic => Generic.capabilities
  | hive => Hive.capabilities
  | impala => Impala.capabilities
  | mySql => MySql.capabilities
  | native => Native.capabilities
  | oracle => Oracle.capabilities
  | postgreSql => PostgreSql.capabilities
  | redshift => Redshift.capabilities
  | sqlServer => SqlServer.capabilities
  | sybase => Sybase.capabilities
  | teradata => Teradata.capabilities

/-- The text of a query in a dialect; a fault of the configuration shows before any of the query. -/
def generate (d : Dialect) (p : Properties) (s : Select) : Except Error String := do
  let t ← (d.target p).mapError .config
  (t.generate s).mapError .query

end Dialect

end RemoteQuery
