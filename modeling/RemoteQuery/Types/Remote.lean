import RemoteQuery.Text.Ascii

/-!
# RemoteQuery.Types.Remote

What a remote driver reports about the type of a column, and the standard type
codes.  Codes of a single vendor stand next to the dialect that claims them.
-/

namespace RemoteQuery

/-- The type of a column as the driver reports it. -/
structure RemoteType where
  typeCode : Int32
  /-- Size of a text, precision of a number. -/
  size : Int32
  scale : Int32
  /-- Native name of the type. -/
  typeName : String
deriving DecidableEq

namespace RemoteType

/-- Whether the native name is `name` in any case. -/
def isNamed (r : RemoteType) (name : String) : Bool :=
  Text.sameWord r.typeName name

/-- The native name in capitals. -/
def upperName (r : RemoteType) : String :=
  r.typeName.toUpper

end RemoteType

namespace TypeCode

def bit : Int32 := -7
def tinyint : Int32 := -6
def smallint : Int32 := 5
def integer : Int32 := 4
def bigint : Int32 := -5
def float : Int32 := 6
def real : Int32 := 7
def double : Int32 := 8
def numeric : Int32 := 2
def decimal : Int32 := 3
def char : Int32 := 1
def varchar : Int32 := 12
def longvarchar : Int32 := -1
def date : Int32 := 91
def time : Int32 := 92
def timestamp : Int32 := 93
def binary : Int32 := -2
def varbinary : Int32 := -3
def longvarbinary : Int32 := -4
def null : Int32 := 0
def other : Int32 := 1111
def javaObject : Int32 := 2000
def distinct : Int32 := 2001
def struct : Int32 := 2002
def array : Int32 := 2003
def blob : Int32 := 2004
def clob : Int32 := 2005
def ref : Int32 := 2006
def datalink : Int32 := 70
def boolean : Int32 := 16
def rowid : Int32 := -8
def nchar : Int32 := -15
def nvarchar : Int32 := -9
def longnvarchar : Int32 := -16
def nclob : Int32 := 2011
def sqlxml : Int32 := 2009
def refCursor : Int32 := 2012
def timeWithTimezone : Int32 := 2013
def timestampWithTimezone : Int32 := 2014

/-- Every standard code with its name. -/
def standard : List (String × Int32) :=
  [("BIT", bit), ("TINYINT", tinyint), ("SMALLINT", smallint), ("INTEGER", integer),
   ("BIGINT", bigint), ("FLOAT", float), ("REAL", real), ("DOUBLE", double),
   ("NUMERIC", numeric), ("DECIMAL", decimal), ("CHAR", char), ("VARCHAR", varchar),
   ("LONGVARCHAR", longvarchar), ("DATE", date), ("TIME", time), ("TIMESTAMP", timestamp),
   ("BINARY", binary), ("VARBINARY", varbinary), ("LONGVARBINARY", longvarbinary),
   ("NULL", null), ("OTHER", other), ("JAVA_OBJECT", javaObject), ("DISTINCT", distinct),
   ("STRUCT", struct), ("ARRAY", array), ("BLOB", blob), ("CLOB", clob), ("REF", ref),
   ("DATALINK", datalink), ("BOOLEAN", boolean), ("ROWID", rowid), ("NCHAR", nchar),
   ("NVARCHAR", nvarchar), ("LONGNVARCHAR", longnvarchar), ("NCLOB", nclob),
   ("SQLXML", sqlxml), ("REF_CURSOR", refCursor), ("TIME_WITH_TIMEZONE", timeWithTimezone),
   ("TIMESTAMP_WITH_TIMEZONE", timestampWithTimezone)]

end TypeCode

end RemoteQuery
