import RemoteQuery.Capability.Set
import RemoteQuery.Calls.DateArithmetic
import RemoteQuery.Target.Basic

/-!
# RemoteQuery.Dialect.Teradata

Documents, intervals and periods are reported under one type code; their names
tell them apart, and they travel as text.
-/

namespace RemoteQuery.Dialect.Teradata

open Calls

/-- Size of the text of a document. -/
def documentTextSize : Nat := 64000

/-- Size of the text of an interval. -/
def intervalTextSize : Nat := 30

/-- Size of the text of a period. -/
def periodTextSize : Nat := 100

/-- The largest precision of the leading field of an interval. -/
def intervalPrecision : String := "(4)"

/-- The facts about this target. -/
def profile : Profile where
  name := "TERADATA"
  nullSorting := .low
  nullOrderingClause := false
  limitStrategy := .top
  scalarAliases := [(.bitAnd, "BITAND"), (.bitOr, "BITOR"), (.bitXor, "BITXOR")]
  aggregateAliases := [(.stddev, "STDDEV_SAMP"), (.variance, "VAR_SAMP")]

/-- The size of the text a named type travels in. -/
def textSize? (name : String) : Option Nat :=
  let upper := name.toUpper
  if upper == "XML" || upper == "JSON" then some documentTextSize
  else if Text.beginsWith upper "INTERVAL" then some intervalTextSize
  else if Text.beginsWith upper "PERIOD" then some periodTextSize
  else none

/-- Whether a native type name denotes a geometry, with or without its database. -/
def isGeometry (name : String) : Bool :=
  Text.sameWord name "ST_GEOMETRY" || Text.endsWith name.toUpper ".ST_GEOMETRY"

/-- The types this target claims. -/
def claimType (r : RemoteType) : Option CanonicalType :=
  if r.typeCode ≠ TypeCode.other then none
  else if isGeometry r.typeName then some (.geometry 0)
  else
    match textSize? r.typeName with
    | some size => some (.cappedVarchar size .utf8)
    | none => some .unsupported

/-- The columns this target wraps for transport. -/
def transportForm (c : ColumnMetadata) (sql : String) : Option String :=
  if isGeometry c.typeName then some (sql ++ ".ST_AsText()")
  else (textSize? c.typeName).map fun size => cast sql ("VARCHAR(" ++ toString size ++ ")")

/-- Months are clamped to the end of a month, which intervals do not do. -/
def dateAdd (a : DateAdd) : String :=
  match a.unit with
  | .month => call "ADD_MONTHS" [a.value, a.amount]
  | .year => call "ADD_MONTHS" [a.value, multiplied 12 a.amount]
  | _ => a.intervalLiteral intervalPrecision

/-- The scalar calls of this target that are not plain. -/
def scalarForm (f : ScalarFunction) (args : List String) : Option String :=
  match f, args with
  | .trim, _ => some (trimBoth args)
  | .ltrim, _ => some (trimOneSide "LTRIM" "LEADING" args)
  | .rtrim, _ => some (trimOneSide "RTRIM" "TRAILING" args)
  | .replace, _ => some (defaultedCall "OREPLACE" args 3 "''")
  | .instr, [string, search] => some ("POSITION(" ++ search ++ " IN " ++ string ++ ")")
  | .mod, _ => some (operatorChain "MOD" args)
  | .power, _ => some (operatorChain "**" args)
  | .concat, _ => some (operatorChain "||" args)
  | .year, _ => some (extractField "YEAR" args)
  | .month, _ => some (extractField "MONTH" args)
  | .day, _ => some (extractField "DAY" args)
  | _, _ => (DateAdd.ofCall? f args).map dateAdd

/-- The Teradata target. -/
def target : Target where
  profile := profile
  claimType := claimType
  transportForm := transportForm
  scalarForm := scalarForm
  boolLiteral := Target.numericBool

/-- Division truncates and has no floored form; concatenation pads numbers. -/
def capabilities : CapabilitySet :=
  (.relational ∪ .ofMain [.limit] ∪ .ofLiterals [.interval] ∪
    .ofAggregates [.stddev, .variance] : CapabilitySet).withoutScalars [.floatDiv, .div, .concat]

end RemoteQuery.Dialect.Teradata
