import RemoteQuery.Capability.Set
import RemoteQuery.Properties.Basic
import RemoteQuery.Calls.DateArithmetic
import RemoteQuery.Calls.Text

/-!
# RemoteQuery.Dialect.Oracle

Numbers whose precision no decimal holds travel as text, unless the
configuration names a decimal type for them.
-/

namespace RemoteQuery.Dialect.Oracle

open Calls

/-! ## type codes of this vendor -/

def binaryFloat : Int32 := 100
def binaryDouble : Int32 := 101
def timestampWithZone : Int32 := -101
def timestampWithLocalZone : Int32 := -102
def intervalYearMonth : Int32 := -103
def intervalDaySecond : Int32 := -104

/-- The scale of a number declared without precision. -/
def unspecifiedScale : Int := -127

/-- Length of the text of a row address. -/
def rowidSize : Nat := 18

/-- Largest length of the text of a universal row address. -/
def urowidSize : Nat := 4000

/-- The facts about this target. -/
def profile : Profile where
  name := "ORACLE"
  limitStrategy := .rowNum
  numericFallback := .varchar

/-! ## types -/

/-- The type of a number: its decimal if there is one, else the configured decimal, else text. -/
def numberType (override : Option DecimalOverride) (precision scale : Int) : CanonicalType :=
  if scale ≠ unspecifiedScale ∧ (leastDecimal? precision scale).isSome then
    numericType precision scale .varchar
  else
    match override with
    | some o => .cappedDecimal o.precision o.scale
    | none =>
      if scale = unspecifiedScale then .cappedVarchar numericTextSize .utf8
      else numericType precision scale .varchar

/-- The types this target claims. -/
def claimType (override : Option DecimalOverride) (r : RemoteType) : Option CanonicalType :=
  if r.typeCode ∈ [TypeCode.numeric, TypeCode.decimal] then
    some (if r.isNamed "FLOAT" then .double
      else numberType override r.size.toInt r.scale.toInt)
  else if r.typeCode ∈ [binaryFloat, binaryDouble] then some .double
  else if r.typeCode ∈ [timestampWithZone, intervalYearMonth, intervalDaySecond] then
    some (.cappedVarchar timeTextSize .utf8)
  else if r.typeCode = timestampWithLocalZone then some (.timestamp true)
  else if r.typeCode = TypeCode.rowid then some (.cappedVarchar rowidSize .ascii)
  else if r.isNamed "UROWID" then some (.cappedVarchar urowidSize .ascii)
  -- Bytes travel as hexadecimal text, two characters a byte.
  else if r.typeCode ∈ [TypeCode.binary, TypeCode.varbinary] ∧ r.isNamed "RAW" then
    some (.cappedVarchar (r.size.toInt * 2) .ascii)
  else if Text.endsWith r.upperName "SDO_GEOMETRY" then some (.geometry 0)
  else none

/-- A number column in the type it was mapped to. -/
def transportNumber (override : Option DecimalOverride) (type : CanonicalType) (sql : String) :
    Option String :=
  match type with
  | .decimal p s =>
    if override = some ⟨p.toNat, s.toNat⟩ then
      some (cast sql ("DECIMAL(" ++ toString p.toNat ++ ", " ++ toString s.toNat ++ ")"))
    else none
  | .varchar .. => some (call "TO_CHAR" [sql])
  | _ => none

/-- The columns this target wraps for transport. -/
def transportForm (override : Option DecimalOverride) (c : ColumnMetadata) (sql : String) :
    Option String :=
  let name := c.nativeUpper
  if name == "NUMBER" then transportNumber override c.dataType sql
  else if name == "CLOB" || name == "NCLOB" then some (call "TO_CHAR" [sql])
  else if name == "ROWID" || name == "UROWID" then some (call "ROWIDTOCHAR" [sql])
  else if name == "RAW" then some (call "RAWTOHEX" [sql])
  else if Text.endsWith name "WITH LOCAL TIME ZONE" then some (cast sql "TIMESTAMP")
  else if Text.endsWith name "WITH TIME ZONE" || Text.beginsWith name "INTERVAL" then
    some (call "TO_CHAR" [sql])
  else if Text.endsWith name "SDO_GEOMETRY" then some (call "SDO_UTIL.TO_WKTGEOMETRY" [sql])
  else none

/-! ## functions -/

/-- Days are plain numbers; units below a day need an interval, and months a function. -/
def dateAdd (a : DateAdd) : String :=
  match a.unit with
  | .day => "(" ++ a.value ++ " + " ++ a.amount ++ ")"
  | .week => "(" ++ a.value ++ " + " ++ daysInWeeks a.amount ++ ")"
  | .hour | .minute | .second =>
    "(" ++ a.value ++ " + NUMTODSINTERVAL(" ++ a.amount ++ ", '" ++ a.unit.keyword ++ "'))"
  | .month => call "ADD_MONTHS" [a.value, a.amount]
  | .year => call "ADD_MONTHS" [a.value, multiplied 12 a.amount]

/-- The scalar calls of this target that are not plain. -/
def scalarForm (f : ScalarFunction) (args : List String) : Option String :=
  match f, args with
  | .trim, _ => some (trimBoth args)
  | .div, _ => some (floorQuotient "NUMBER(36, 0)" false args)
  | .bitAnd, _ => some (call "BITAND" args)
  | .bitOr, [a, b] =>
    some ("(" ++ a ++ " + " ++ b ++ " - BITAND(" ++ a ++ ", " ++ b ++ "))")
  | .bitXor, [a, b] =>
    some ("(" ++ a ++ " + " ++ b ++ " - 2 * BITAND(" ++ a ++ ", " ++ b ++ "))")
  | .concat, _ => some (operatorChain "||" args)
  | .year, _ => some (extractField "YEAR" args)
  | .month, _ => some (extractField "MONTH" args)
  | .day, _ => some (extractField "DAY" args)
  | _, _ => (DateAdd.ofCall? f args).map dateAdd

/-- The aggregate calls of this target that are not plain. -/
def aggregateForm (c : AggregateText) : Option String :=
  match c.function with
  | .groupConcat => some c.listagg
  | _ => none

/-! ## target -/

/-- The Oracle target for a decimal override. -/
def targetOf (override : Option DecimalOverride) : Target where
  profile := profile
  claimType := claimType override
  transportForm := transportForm override
  scalarForm := scalarForm
  aggregateForm := aggregateForm
  boolLiteral := Target.numericBool
  -- Numbers in the select list travel as text, like number columns.
  selectedNumber := fun sql => call "TO_CHAR" [sql]

/-- The Oracle target of a configuration. -/
def target (p : Properties) : Except ConfigError Target :=
  p.numberOverride.map targetOf

/-- What this target can do. -/
def capabilities : CapabilitySet :=
  .relational ∪ .ofMain [.limit, .limitWithOffset] ∪ .ofLiterals [.interval] ∪
    .ofAggregates [.median, .stddev, .variance, .groupConcat, .groupConcatSeparator,
      .groupConcatOrderBy]

end RemoteQuery.Dialect.Oracle
