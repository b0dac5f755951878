import RemoteQuery.Capability.Set
import RemoteQuery.Calls.DateArithmetic
import RemoteQuery.Target.Basic

/-!
# RemoteQuery.Dialect.Athena

Names fold to small letters, documents travel as text, and group concatenation
collects into an array that is joined.
-/

namespace RemoteQuery.Dialect.Athena

open Calls

/-- Names fold to small letters and absent values sort last. -/
def profile : Profile where
  name := "ATHENA"
  unquotedCase := .foldLower
  quotedCase := .foldLower
  nullSorting := .atEnd
  scalarAliases :=
    [(.instr, "STRPOS"), (.trunc, "TRUNCATE"), (.bitAnd, "BITWISE_AND"), (.bitOr, "BITWISE_OR"),
     (.bitXor, "BITWISE_XOR")]

/-- Documents travel as text. -/
def claimType (r : RemoteType) : Option CanonicalType :=
  if r.isNamed "json" then some (.maxVarchar .utf8) else none

/-- Documents are formatted. -/
def transportForm (c : ColumnMetadata) (sql : String) : Option String :=
  if c.isNative "json" then some (call "JSON_FORMAT" [sql]) else none

/-- Concatenation takes two or more texts; padding names its character. -/
def scalarForm (f : ScalarFunction) (args : List String) : Option String :=
  match f with
  | .trim => some (trimBoth args)
  | .concat =>
    some (defaultedCall "CONCAT" (textArguments (cast · "VARCHAR") args) 2 "''")
  | .lpad => some (defaultedCall "LPAD" args 3 "' '")
  | .rpad => some (defaultedCall "RPAD" args 3 "' '")
  | _ => (DateAdd.ofCall? f args).map (·.unitTextCall "DATE_ADD")

/-- Values are collected into an array, which is joined. -/
def aggregateForm (c : AggregateText) : Option String :=
  match c.function with
  | .groupConcat =>
    some ("ARRAY_JOIN(ARRAY_AGG(" ++ c.distinctWord ++ c.arg ++ " ORDER BY " ++ c.orderOrSelf ++
      "), " ++ c.separatorLiteral ++ ")")
  | _ => none

/-- The Athena target. -/
def target : Target where
  profile := profile
  claimType := claimType
  transportForm := transportForm
  scalarForm := scalarForm
  aggregateForm := aggregateForm

/-- The offset comes before the limit here, so only limits are declared; division truncates and
has no floored form. -/
def capabilities : CapabilitySet :=
  (.relational ∪ .ofMain [.limit] ∪ .ofLiterals [.bool] ∪
    .ofAggregates [.stddev, .variance, .groupConcat, .groupConcatDistinct, .groupConcatSeparator,
      .groupConcatOrderBy] : CapabilitySet).withoutScalars [.floatDiv, .div]

end RemoteQuery.Dialect.Athena
