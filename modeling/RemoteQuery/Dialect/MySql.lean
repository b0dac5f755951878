import RemoteQuery.Capability.Set
import RemoteQuery.Calls.DateArithmetic
import RemoteQuery.Target.Basic

/-!
# RemoteQuery.Dialect.MySql

Databases are catalogs, shapes travel as text, and bit strings and years as
numbers.
-/

namespace RemoteQuery.Dialect.MySql

open Calls

/-- Databases are catalogs and there are no schemas; the generic length counts characters. -/
def profile : Profile where
  name := "MYSQL"
  quoteStyle := .backtick
  unquotedCase := .caseSensitive
  quotedCase := .caseSensitive
  qualifiesCatalog := true
  qualifiesSchema := false
  nullSorting := .low
  nullOrderingClause := false
  scalarAliases := [(.length, "CHAR_LENGTH")]
  aggregateAliases := [(.stddev, "STDDEV_SAMP"), (.variance, "VAR_SAMP")]

/-- Whether a native type name denotes a shape. -/
def isSpatial (name : String) : Bool :=
  ["GEOMETRY", "POINT", "LINESTRING", "POLYGON", "MULTIPOINT", "MULTILINESTRING", "MULTIPOLYGON",
    "GEOMETRYCOLLECTION"].any (Text.sameWord name)

/-- Shapes, bit strings of up to 64 bits and years; the latter two are numbers. -/
def claimType (r : RemoteType) : Option CanonicalType :=
  if isSpatial r.typeName then some (.geometry 0)
  else if r.typeCode = TypeCode.bit ∧ 1 < r.size.toInt then some (.cappedDecimal 20 0)
  else if r.isNamed "YEAR" then some (.cappedDecimal 4 0)
  else none

/-- Whether a type is a decimal. -/
def isDecimal : CanonicalType → Bool
  | .decimal .. => true
  | _ => false

/-- Shapes as text, bit strings and years as numbers. -/
def transportForm (c : ColumnMetadata) (sql : String) : Option String :=
  if isSpatial c.typeName then some (call "ST_AsText" [sql])
  else if (c.isNative "BIT" && isDecimal c.dataType) || c.isNative "YEAR" then
    some (cast sql "UNSIGNED")
  else none

/-- The scalar calls of this target that are not plain. -/
def scalarForm (f : ScalarFunction) (args : List String) : Option String :=
  match f with
  | .trim => some (trimBoth args)
  | .ltrim => some (trimOneSide "LTRIM" "LEADING" args)
  | .rtrim => some (trimOneSide "RTRIM" "TRAILING" args)
  | .lpad => some (defaultedCall "LPAD" args 3 "' '")
  | .rpad => some (defaultedCall "RPAD" args 3 "' '")
  | .replace => some (defaultedCall "REPLACE" args 3 "''")
  | .trunc => some (defaultedCall "TRUNCATE" args 2 "0")
  | .div => some (operatorChain "DIV" args)
  | .bitAnd => some (operatorChain "&" args)
  | .bitOr => some (operatorChain "|" args)
  | .bitXor => some (operatorChain "^" args)
  | _ => (DateAdd.ofCall? f args).map (·.intervalCall "DATE_ADD")

/-- The MySQL target. -/
def target : Target where
  profile := profile
  claimType := claimType
  transportForm := transportForm
  scalarForm := scalarForm
  boolLiteral := Target.numericBool

/-- What this target can do. -/
def capabilities : CapabilitySet :=
  .relational ∪ .ofMain [.limit, .limitWithOffset] ∪ .ofLiterals [.bool] ∪
    .ofAggregates [.stddev, .variance, .groupConcat, .groupConcatDistinct, .groupConcatSeparator,
      .groupConcatOrderBy]

end RemoteQuery.Dialect.MySql
