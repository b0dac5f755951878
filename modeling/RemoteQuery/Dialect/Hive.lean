import RemoteQuery.Capability.Set
import RemoteQuery.Calls.DateArithmetic
import RemoteQuery.Target.Basic

/-!
# RemoteQuery.Dialect.Hive

Composed types and bytes travel as text, and group concatenation collects into a
list that is joined without an order.
-/

namespace RemoteQuery.Dialect.Hive

open Calls

/-- Trims take no set of characters. -/
def profile : Profile where
  name := "HIVE"
  quoteStyle := .backtick
  unquotedCase := .foldLower
  quotedCase := .foldLower
  nullSorting := .low
  aggregateAliases := [(.stddev, "STDDEV_SAMP"), (.variance, "VAR_SAMP")]
  scalarMaxArgs := [(.trim, 1), (.ltrim, 1), (.rtrim, 1)]

/-- Whether a native type name denotes a composed type, which travels as a document. -/
def isComplex (name : String) : Bool :=
  ["array", "map", "struct", "uniontype"].any (Text.beginsWith name.toLower)

/-- Bytes and composed types travel as text. -/
def claimType (r : RemoteType) : Option CanonicalType :=
  if r.typeCode ∈ [TypeCode.binary, TypeCode.varbinary] then some (.maxVarchar .ascii)
  else if r.typeCode ∈ [TypeCode.array, TypeCode.struct, TypeCode.javaObject, TypeCode.other] ∧
      isComplex r.typeName then
    some (.maxVarchar .utf8)
  else none

/-- Bytes are encoded. -/
def transportForm (c : ColumnMetadata) (sql : String) : Option String :=
  if c.isNative "binary" then some (call "BASE64" [sql]) else none

/-- The scalar calls of this target that are not plain. -/
def scalarForm (f : ScalarFunction) (args : List String) : Option String :=
  match f with
  | .lpad => some (defaultedCall "LPAD" args 3 "' '")
  | .rpad => some (defaultedCall "RPAD" args 3 "' '")
  | .replace => some (defaultedCall "REPLACE" args 3 "''")
  | .div => some (operatorChain "DIV" args)
  | .mod => some (operatorChain "%" args)
  | .bitAnd => some (operatorChain "&" args)
  | .bitOr => some (operatorChain "|" args)
  | .bitXor => some (operatorChain "^" args)
  | _ => (DateAdd.ofCall? f args).map (·.intervalLiteral "")

/-- Values are collected and joined, without an order. -/
def aggregateForm (c : AggregateText) : Option String :=
  match c.function with
  | .groupConcat =>
    let collect := if c.distinct then "COLLECT_SET" else "COLLECT_LIST"
    some ("CONCAT_WS(" ++ c.separatorLiteral ++ ", " ++ collect ++ "(" ++ c.arg ++ "))")
  | _ => none

/-- The Hive target. -/
def target : Target where
  profile := profile
  claimType := claimType
  transportForm := transportForm
  scalarForm := scalarForm
  aggregateForm := aggregateForm

/-- Truncation is for dates only, and trims strip blanks only. -/
def capabilities : CapabilitySet :=
  (.relational ∪ .ofMain [.limit] ∪ .ofLiterals [.bool] ∪
    .ofAggregates [.stddev, .variance, .groupConcat, .groupConcatDistinct,
      .groupConcatSeparator] : CapabilitySet).withoutScalars [.trunc, .trim, .ltrim, .rtrim]

end RemoteQuery.Dialect.Hive
