import RemoteQuery.Dialect.SqlServer

/-!
# RemoteQuery.Dialect.Sybase

Types without a transportable form are replaced by a marker text.
-/

namespace RemoteQuery.Dialect.Sybase

open Calls

/-- The widest text an expression converts to. -/
def maxText : String := "VARCHAR(16384)"

/-- The facts about this target. -/
def profile : Profile where
  name := "SYBASE"
  quoteStyle := .bracket
  unquotedCase := .caseSensitive
  quotedCase := .caseSensitive
  qualifiesCatalog := true
  qualifiesSchema := true
  nullSorting := .low
  nullOrderingClause := false
  limitStrategy := .top
  scalarAliases := [(.length, "CHAR_LENGTH"), (.ceil, "CEILING"), (.ln, "LOG")]
  aggregateAliases := [(.stddev, "STDDEV_SAMP"), (.variance, "VAR_SAMP")]
  scalarMaxArgs := [(.ltrim, 1), (.rtrim, 1)]

/-- The name of a type without a transportable form. -/
def untransportable? (name : String) : Option String :=
  ["image", "binary", "varbinary", "timestamp"].find? fun t => Text.sameWord t name

/-- The text that stands for a value without a transportable form. -/
def marker (typeName : String) : String :=
  typeName.toUpper ++ " NOT SUPPORTED"

/-- A type without a transportable form has the size of its marker. -/
def claimType (r : RemoteType) : Option CanonicalType :=
  (untransportable? r.typeName).map fun name => .cappedVarchar (marker name).length .utf8

/-- A column without a transportable form is replaced by its marker. -/
def transportForm (c : ColumnMetadata) (_sql : String) : Option String :=
  (untransportable? c.typeName).map fun name => Text.stringLiteral (marker name)

/-- The plus sign adds numbers, so operands are converted to text first. -/
def concatAsText (args : List String) : String :=
  operatorChain "+" (textArguments (fun arg => call "CONVERT" [maxText, arg]) args)

/-- An empty replacement means a blank here, and an absent one deletes. -/
def scalarForm (f : ScalarFunction) (args : List String) : Option String :=
  match f, args with
  | .replace, [value, search] => some (call "STR_REPLACE" [value, search, "NULL"])
  | .replace, _ => some (call "STR_REPLACE" args)
  | .concat, _ => some (concatAsText args)
  | .year, [value] => some (call "DATEPART" ["YEAR", value])
  | .month, [value] => some (call "DATEPART" ["MONTH", value])
  | .day, [value] => some (call "DATEPART" ["DAY", value])
  | .currentDate, _ => some "CURRENT_DATE()"
  | .currentTimestamp, _ => some "GETDATE()"
  | _, _ => SqlServer.familyForm f args

/-- The Sybase target. -/
def target : Target where
  profile := profile
  claimType := claimType
  transportForm := transportForm
  scalarForm := scalarForm
  boolLiteral := Target.numericBool
  dateLiteral := fun d => cast ("'" ++ d.text ++ "'") "DATE"
  timestampLiteral := fun t => cast ("'" ++ t.millisecondText ++ "'") "DATETIME"

/-- Division truncates, there is no trim, truncation or padding, and one-sided trims strip blanks
only. -/
def capabilities : CapabilitySet :=
  (.relational ∪ .ofMain [.limit] ∪ .ofAggregates [.stddev, .variance] :
    CapabilitySet).withoutScalars [.floatDiv, .trim, .ltrim, .rtrim, .trunc, .lpad, .rpad]

end RemoteQuery.Dialect.Sybase
