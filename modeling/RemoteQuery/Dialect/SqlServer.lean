import RemoteQuery.Capability.Set
import RemoteQuery.Calls.DateArithmetic
import RemoteQuery.Target.Basic

/-!
# RemoteQuery.Dialect.SqlServer

The dialect and the forms of functions it shares with its family.
-/

namespace RemoteQuery.Dialect.SqlServer

open Calls

/-! ## type codes of this vendor -/

def sqlVariant : Int32 := -150
def datetimeOffset : Int32 := -155
def geometry : Int32 := -157
def geography : Int32 := -158

/-- Largest length of the text of a hierarchy node. -/
def hierarchyTextSize : Nat := 4000

/-- Length of the text of a unique identifier. -/
def uniqueIdentifierSize : Nat := 36

/-- The length of a substring that runs to the end. -/
def substringToEnd : String := "2147483647"

/-- One-sided trims take no set of characters. -/
def profile : Profile where
  name := "SQLSERVER"
  quoteStyle := .bracket
  unquotedCase := .caseSensitive
  quotedCase := .caseSensitive
  qualifiesCatalog := true
  qualifiesSchema := true
  nullSorting := .low
  nullOrderingClause := false
  limitStrategy := .top
  scalarAliases := [(.length, "LEN"), (.ceil, "CEILING"), (.ln, "LOG")]
  aggregateAliases := [(.stddev, "STDEV"), (.variance, "VAR")]
  scalarMaxArgs := [(.ltrim, 1), (.rtrim, 1)]

/-- The types this target claims. -/
def claimType (r : RemoteType) : Option CanonicalType :=
  if r.isNamed "hierarchyid" then some (.cappedVarchar hierarchyTextSize .utf8)
  else if r.isNamed "xml" then some (.maxVarchar .utf8)
  else if r.isNamed "uniqueidentifier" then some (.cappedChar uniqueIdentifierSize .ascii)
  else if r.typeCode = geometry then some (.geometry 0)
  else if r.typeCode = geography then some (.maxVarchar .utf8)
  else if r.typeCode = datetimeOffset then some (.timestamp false)
  else if r.typeCode = sqlVariant then some .unsupported
  else none

/-- The columns this target wraps for transport. -/
def transportForm (c : ColumnMetadata) (sql : String) : Option String :=
  let name := c.typeName.toLower
  if name == "hierarchyid" then some (cast sql "NVARCHAR(4000)")
  else if name == "geometry" || name == "geography" then some (sql ++ ".STAsText()")
  else if name == "xml" then some (cast sql "NVARCHAR(MAX)")
  else if name == "datetimeoffset" then some (cast sql "DATETIME2")
  else none

/-- The forms of functions the family shares. -/
def familyForm (f : ScalarFunction) (args : List String) : Option String :=
  match f with
  | .substr => some (defaultedCall "SUBSTRING" args 3 substringToEnd)
  | .instr => some (reversedCall "CHARINDEX" args)
  | .round => some (defaultedCall "ROUND" args 2 "0")
  | .replace => some (defaultedCall "REPLACE" args 3 "''")
  | .mod => some (operatorChain "%" args)
  | .div => some (floorQuotient "DECIMAL(36, 0)" true args)
  | .bitAnd => some (operatorChain "&" args)
  | .bitOr => some (operatorChain "|" args)
  | .bitXor => some (operatorChain "^" args)
  | _ => (DateAdd.ofCall? f args).map (·.unitFirstCall "DATEADD")

/-- Rounding with a third argument truncates; concatenation takes two or more arguments. -/
def ownForm (f : ScalarFunction) (args : List String) : Option String :=
  match f, args with
  | .trim, _ => some (trimBoth args)
  | .trunc, [value] => some (call "ROUND" [value, "0", "1"])
  | .trunc, [value, digits] => some (call "ROUND" [value, digits, "1"])
  | .currentDate, _ => some "CAST(GETDATE() AS DATE)"
  | .concat, _ => some (defaultedCall "CONCAT" args 2 "''")
  | _, _ => none

/-- The scalar calls of this target that are not plain. -/
def scalarForm (f : ScalarFunction) (args : List String) : Option String :=
  familyForm f args <|> ownForm f args

/-- The aggregate calls of this target that are not plain. -/
def aggregateForm (c : AggregateText) : Option String :=
  match c.function with
  | .groupConcat =>
    some ("STRING_AGG(" ++ cast c.arg "NVARCHAR(MAX)" ++ ", " ++ c.separatorLiteral ++
      ") WITHIN GROUP (ORDER BY " ++ c.orderOrSelf ++ ")")
  | _ => none

/-- The SQL Server target. -/
def target : Target where
  profile := profile
  claimType := claimType
  transportForm := transportForm
  scalarForm := scalarForm
  aggregateForm := aggregateForm
  boolLiteral := Target.numericBool
  dateLiteral := fun d => cast ("'" ++ d.text ++ "'") "DATE"
  timestampLiteral := fun t => cast ("'" ++ t.millisecondText ++ "'") "DATETIME2"

/-- Division truncates, there is no padding, and one-sided trims strip blanks only. -/
def capabilities : CapabilitySet :=
  (.relational ∪ .ofMain [.limit] ∪
    .ofAggregates [.stddev, .variance, .groupConcat, .groupConcatSeparator,
      .groupConcatOrderBy] : CapabilitySet).withoutScalars [.floatDiv, .ltrim, .rtrim, .lpad, .rpad]

end RemoteQuery.Dialect.SqlServer
