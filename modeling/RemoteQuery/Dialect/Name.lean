import RemoteQuery.Text.Ascii
import RemoteQuery.Vocabulary

/-!
# RemoteQuery.Dialect.Name

The supported dialects by name.
-/

namespace RemoteQuery

/-- The supported dialects. -/
inductive Dialect where
  | athena | db2 | generic | hive | impala | mySql | native | oracle | postgreSql | redshift
  | sqlServer | sybase | teradata
deriving DecidableEq

namespace Dialect

/-- The name of a dialect. -/
def name : Dialect → String
  | athena => "ATHENA"
  | db2 => "DB2"
  | generic => "GENERIC"
  | hive => "HIVE"
  | impala => "IMPALA"
  | mySql => "MYSQL"
  | native => "NATIVE"
  | oracle => "ORACLE"
  | postgreSql => "POSTGRESQL"
  | redshift => "REDSHIFT"
  | sqlServer => "SQLSERVER"
  | sybase => "SYBASE"
  | teradata => "TERADATA"

/-- The word a dialect is stored under. -/
def storedName : Dialect → String
  | mySql => "MY_SQL"
  | postgreSql => "POSTGRE_SQL"
  | sqlServer => "SQL_SERVER"
  | d => d.name

instance : Vocabulary Dialect where
  members :=
    [athena, db2, generic, hive, impala, mySql, native, oracle, postgreSql, redshift, sqlServer,
     sybase, teradata]
  word := name
  mem_members a := by cases a <;> decide
  nodup_words := by decide +kernel

instance : Inhabited Dialect := ⟨native⟩

/-- The dialect of a name in any case. -/
def ofName? (s : String) : Option Dialect :=
  (Vocabulary.members : List Dialect).find? fun d => Text.sameWord d.name s

end Dialect

end RemoteQuery
