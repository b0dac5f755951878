import RemoteQuery.Capability.Set
import RemoteQuery.Calls.DateArithmetic
import RemoteQuery.Calls.Text

/-!
# RemoteQuery.Dialect.Db2

Dates are moved by labeled durations, and documents, timestamps and bytes travel
as text.
-/

namespace RemoteQuery.Dialect.Db2

open Calls

/-- The type code of decimal floats. -/
def decfloat : Int32 := -360

/-- Length of the text of a timestamp. -/
def timestampTextSize : Nat := 32

/-- The facts about this target. -/
def profile : Profile where
  name := "DB2"
  limitStrategy := .fetchFirst
  scalarAliases := [(.bitAnd, "BITAND"), (.bitOr, "BITOR"), (.bitXor, "BITXOR")]
  aggregateAliases := [(.stddev, "STDDEV_SAMP"), (.variance, "VARIANCE_SAMP")]

/-- Whether a native type name denotes bytes. -/
def isBitData (name : String) : Bool :=
  Text.endsWith name.toUpper "FOR BIT DATA"

/-- Decimal floats, documents, timestamps and bytes; bytes travel as hexadecimal text. -/
def claimType (r : RemoteType) : Option CanonicalType :=
  let hexSize := r.size.toInt * 2
  if r.typeCode = decfloat then some .double
  else if r.typeCode = TypeCode.sqlxml ∨ r.isNamed "XML" then some (.maxVarchar .utf8)
  else if r.typeCode = TypeCode.timestamp then some (.cappedVarchar timestampTextSize .utf8)
  else if r.typeCode = TypeCode.binary ∧ isBitData r.typeName then
    some (.cappedChar hexSize .ascii)
  else if r.typeCode = TypeCode.varbinary ∧ isBitData r.typeName then
    some (.cappedVarchar hexSize .ascii)
  else none

/-- The claimed types in a form that can be transported. -/
def transportForm (c : ColumnMetadata) (sql : String) : Option String :=
  let name := c.nativeUpper
  if name == "DECFLOAT" then some (cast sql "DOUBLE")
  else if name == "XML" then some ("XMLSERIALIZE(CONTENT " ++ sql ++ " AS CLOB)")
  else if name == "TIMESTAMP" then some (call "VARCHAR" [sql])
  else if isBitData name then some (call "HEX" [sql])
  else none

/-- The scalar calls of this target that are not plain. -/
def scalarForm (f : ScalarFunction) (args : List String) : Option String :=
  match f with
  | .trim => some (trimBoth args)
  | .concat => some (operatorChain "||" args)
  | .instr => some (reversedCall "LOCATE" args)
  | .replace => some (defaultedCall "REPLACE" args 3 "''")
  | _ => (DateAdd.ofCall? f args).map (·.durationSum)

/-- The aggregate calls of this target that are not plain. -/
def aggregateForm (c : AggregateText) : Option String :=
  match c.function with
  | .groupConcat => some c.listagg
  | _ => none

/-- The DB2 target. -/
def target : Target where
  profile := profile
  claimType := claimType
  transportForm := transportForm
  scalarForm := scalarForm
  aggregateForm := aggregateForm
  boolLiteral := Target.numericBool

/-- Division truncates and has no floored form. -/
def capabilities : CapabilitySet :=
  (.relational ∪ .ofMain [.limit] ∪
    .ofAggregates [.median, .stddev, .variance, .groupConcat, .groupConcatDistinct,
      .groupConcatSeparator, .groupConcatOrderBy] : CapabilitySet).withoutScalars [.floatDiv, .div]

end RemoteQuery.Dialect.Db2
