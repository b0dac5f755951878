import RemoteQuery.Dialect.PostgreSql
import RemoteQuery.Calls.Text

/-!
# RemoteQuery.Dialect.Redshift

Names fold to small letters even in quotes, concatenation takes texts only, and
results without precision are cast in the select list.
-/

namespace RemoteQuery.Dialect.Redshift

open Calls

/-- Quoted identifiers fold as well. -/
def profile : Profile where
  name := "REDSHIFT"
  unquotedCase := .foldLower
  quotedCase := .foldLower
  scalarAliases := [(.instr, "STRPOS")]
  castAggregates := PostgreSql.precisionLossAggregates
  castScalars := PostgreSql.precisionLossScalars
  doubleType := "FLOAT"

/-- The types this target claims. -/
def claimType (r : RemoteType) : Option CanonicalType :=
  if r.isNamed "super" then some (.maxVarchar .utf8)
  else if r.isNamed "geometry" then some (.geometry 0)
  else if r.typeCode = TypeCode.timestamp ∧ r.isNamed "timestamptz" then some (.timestamp true)
  else none

/-- The columns this target wraps for transport. -/
def transportForm (c : ColumnMetadata) (sql : String) : Option String :=
  if c.isNative "super" then some (call "JSON_SERIALIZE" [sql])
  else if c.isNative "geometry" then some (call "ST_AsText" [sql])
  else none

/-- The scalar calls of this target that are not plain. -/
def scalarForm (f : ScalarFunction) (args : List String) : Option String :=
  match f with
  | .trim => some (trimBoth args)
  | .concat => some (operatorChain "||" (textArguments (cast · "VARCHAR(MAX)") args))
  | .bitAnd => some (operatorChain "&" args)
  | .bitOr => some (operatorChain "|" args)
  | .bitXor => some (operatorChain "#" args)
  | .replace => some (defaultedCall "REPLACE" args 3 "''")
  | .year => some (extractField "YEAR" args)
  | .month => some (extractField "MONTH" args)
  | .day => some (extractField "DAY" args)
  | _ => (DateAdd.ofCall? f args).map (·.unitFirstCall "DATEADD")

/-- The aggregate calls of this target that are not plain. -/
def aggregateForm (c : AggregateText) : Option String :=
  match c.function with
  | .groupConcat => some c.listagg
  | _ => none

/-- The Redshift target. -/
def target : Target where
  profile := profile
  claimType := claimType
  transportForm := transportForm
  scalarForm := scalarForm
  aggregateForm := aggregateForm

/-- Division truncates and has no floored form. -/
def capabilities : CapabilitySet :=
  (.relational ∪ .ofMain [.limit, .limitWithOffset] ∪ .ofLiterals [.bool] ∪
    .ofAggregates [.median, .stddev, .variance, .groupConcat, .groupConcatDistinct,
      .groupConcatSeparator, .groupConcatOrderBy] : CapabilitySet).withoutScalars [.floatDiv, .div]

end RemoteQuery.Dialect.Redshift
