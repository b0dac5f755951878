import RemoteQuery.Capability.Set
import RemoteQuery.Calls.DateArithmetic
import RemoteQuery.Target.Basic

/-!
# RemoteQuery.Dialect.PostgreSql

Dates are moved by intervals, many types of the target cast to text without
loss, and results without precision are cast in the select list.
-/

namespace RemoteQuery.Dialect.PostgreSql

open Calls

/-- Aggregates whose result the driver reports without precision. -/
def precisionLossAggregates : List AggregateFunction :=
  [.avg, .sum, .stddev, .variance, .median]

/-- Scalar functions whose result the driver reports without precision. -/
def precisionLossScalars : List ScalarFunction :=
  [.sqrt, .ln, .exp, .power, .round, .trunc]

/-- The facts about this target. -/
def profile : Profile where
  name := "POSTGRESQL"
  unquotedCase := .foldLower
  scalarAliases := [(.instr, "STRPOS")]
  castAggregates := precisionLossAggregates
  castScalars := precisionLossScalars
  doubleType := "DOUBLE PRECISION"

/-- Whether a native type name denotes a type that casts to text without loss. -/
def isTextCastable (name : String) : Bool :=
  ["json", "jsonb", "uuid", "interval", "xml", "cidr", "inet", "macaddr", "macaddr8", "point",
    "line", "lseg", "box", "path", "polygon", "circle", "tsvector", "tsquery", "varbit",
    "citext"].any (Text.sameWord name)

/-- The types this target claims. -/
def claimType (r : RemoteType) : Option CanonicalType :=
  if r.typeCode = TypeCode.other ∧ isTextCastable r.typeName then some (.maxVarchar .utf8)
  else if r.typeCode = TypeCode.other ∧ r.isNamed "geometry" then some (.geometry 0)
  else if r.typeCode = TypeCode.bit ∧ 1 < r.size.toInt then
    some (.cappedVarchar r.size.toInt .ascii)
  else if r.typeCode = TypeCode.timestamp ∧ r.isNamed "timestamptz" then some (.timestamp true)
  else none

/-- Whether a type is a varying text. -/
def isVarchar : CanonicalType → Bool
  | .varchar .. => true
  | _ => false

/-- The columns this target wraps for transport. -/
def transportForm (c : ColumnMetadata) (sql : String) : Option String :=
  if isTextCastable c.typeName then some (cast sql "VARCHAR")
  else if c.isNative "bit" && isVarchar c.dataType then some (cast sql "VARCHAR")
  else if c.isNative "geometry" then some (call "ST_AsText" [sql])
  else none

/-- The scalar calls of this target that are not plain. -/
def scalarForm (f : ScalarFunction) (args : List String) : Option String :=
  match f with
  | .trim => some (trimBoth args)
  | .bitAnd => some (operatorChain "&" args)
  | .bitOr => some (operatorChain "|" args)
  | .bitXor => some (operatorChain "#" args)
  | .replace => some (defaultedCall "REPLACE" args 3 "''")
  | .year => some (extractField "YEAR" args)
  | .month => some (extractField "MONTH" args)
  | .day => some (extractField "DAY" args)
  | _ => (DateAdd.ofCall? f args).map (·.intervalLiteral "")

/-- The aggregate calls of this target that are not plain. -/
def aggregateForm (c : AggregateText) : Option String :=
  match c.function with
  | .median => some ("PERCENTILE_CONT(0.5) WITHIN GROUP (ORDER BY " ++ c.arg ++ ")")
  | .groupConcat =>
    some ("STRING_AGG(" ++ c.distinctWord ++ cast c.arg "TEXT" ++ ", " ++ c.separatorLiteral ++
      " ORDER BY " ++ c.orderOrSelf ++ ")")
  | _ => none

/-- The PostgreSQL target. -/
def target : Target where
  profile := profile
  claimType := claimType
  transportForm := transportForm
  scalarForm := scalarForm
  aggregateForm := aggregateForm

/-- Division truncates. -/
def capabilities : CapabilitySet :=
  (.relational ∪ .ofMain [.limit, .limitWithOffset] ∪ .ofLiterals [.bool] ∪
    .ofAggregates [.median, .stddev, .variance, .groupConcat, .groupConcatSeparator,
      .groupConcatOrderBy] : CapabilitySet).withoutScalars [.floatDiv]

end RemoteQuery.Dialect.PostgreSql
