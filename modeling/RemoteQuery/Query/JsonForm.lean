import RemoteQuery.Json.Value
import RemoteQuery.Number.Double.Shortest
import RemoteQuery.Query.Select
import RemoteQuery.Types.JsonForm

/-!
# RemoteQuery.Query.JsonForm

The JSON form of queries.  A record is an object with all its fields, an absent
option being null; a sum is an object with the name of the case as its only
field.  Decimals, dates and timestamps are texts.

Reading is bounded by the number of levels the value nests, which every step
into an expression uses up.
-/

namespace RemoteQuery

/-! ## literals -/

namespace IntervalKind

/-- The JSON form of a flavour. -/
def toJson : IntervalKind → Json
  | yearToMonth p => .ofCase "YEAR_TO_MONTH" (.object [("precision", .int p.toNat)])
  | dayToSecond p f =>
    .ofCase "DAY_TO_SECOND" (.object [("precision", .int p.toNat), ("fraction", .int f.toNat)])

/-- The flavour of a JSON form. -/
def ofJson? (j : Json) : Option IntervalKind := do
  let (name, body) ← j.case?
  let fields ← body.object?
  match name with
  | "YEAR_TO_MONTH" => return yearToMonth (← Json.required? Json.uint32? "precision" fields)
  | "DAY_TO_SECOND" =>
    return dayToSecond (← Json.required? Json.uint32? "precision" fields)
      (← Json.required? Json.uint32? "fraction" fields)
  | _ => none

end IntervalKind

/-- The decimal of a text or a number; a fraction is taken by its shortest digits. -/
def Decimal.ofJson? : Json → Option Decimal
  | .string s => ofText? s
  | .int n => ofInt? n
  | .real x => ofPositional? x.plainText.toList
  | _ => none

/-- The double of a number. -/
def Double.ofJson? : Json → Option Double
  | .int n => some (ofInt n)
  | .real x => some x
  | _ => none

/-- The date of a text. -/
def Date.ofJson? (j : Json) : Option Date :=
  j.string?.bind Date.ofText?

/-- The timestamp of a text. -/
def Timestamp.ofJson? (j : Json) : Option Timestamp :=
  j.string?.bind Timestamp.ofText?

namespace Literal

/-- The JSON form of a literal; a double is its text, and null if it is not finite. -/
def toJson : Literal → Json
  | null => .string "Null"
  | bool b => .ofCase "Bool" (.bool b)
  | exactNumeric d => .ofCase "ExactNumeric" (.string d.text)
  | double x => .ofCase "Double" (if x.isFinite then .string x.text else .null)
  | date d => .ofCase "Date" (.string d.text)
  | timestamp t => .ofCase "Timestamp" (.string t.text)
  | string s => .ofCase "String" (.string s)
  | interval value kind =>
    .ofCase "Interval" (.object [("value", .string value), ("kind", kind.toJson)])

/-- The literal of a JSON form. -/
def ofJson? (j : Json) : Option Literal :=
  if j.unit? = some "Null" then some null
  else do
    let (name, body) ← j.case?
    match name with
    | "Bool" => return bool (← body.bool?)
    | "ExactNumeric" => return exactNumeric (← Decimal.ofJson? body)
    | "Double" => return double (← Double.ofJson? body)
    | "Date" => return date (← Date.ofJson? body)
    | "Timestamp" => return timestamp (← Timestamp.ofJson? body)
    | "String" => return string (← body.string?)
    | "Interval" =>
      let fields ← body.object?
      return interval (← Json.required? Json.string? "value" fields)
        (← Json.required? IntervalKind.ofJson? "kind" fields)
    | _ => none

end Literal

/-! ## columns -/

namespace ColumnMetadata

/-- The JSON form of a declared column. -/
def toJson (c : ColumnMetadata) : Json :=
  .object [("name", .string c.name), ("data_type", c.dataType.toJson),
    ("type_name", .string c.typeName)]

/-- The declared column of a JSON form. -/
def ofJson? (j : Json) : Option ColumnMetadata := do
  let fields ← j.record? ["name", "data_type", "type_name"] 3
  return {
    name := ← Json.required? Json.string? "name" fields
    dataType := ← Json.required? CanonicalType.ofJson? "data_type" fields
    typeName := ← Json.required? Json.string? "type_name" fields }

end ColumnMetadata

namespace ColumnRef

/-- The JSON form of a column reference. -/
def toJson (c : ColumnRef) : Json :=
  .object [("table", .string c.table), ("table_alias", .ofOption .string c.tableAlias),
    ("ordinal", .int c.ordinal.toNat), ("metadata", c.metadata.toJson)]

/-- The column reference of a JSON form. -/
def ofJson? (j : Json) : Option ColumnRef := do
  let fields ← j.record? ["table", "table_alias", "ordinal", "metadata"] 4
  return {
    table := ← Json.required? Json.string? "table" fields
    tableAlias := ← Json.optional? Json.string? "table_alias" fields
    ordinal := ← Json.required? Json.uint64? "ordinal" fields
    metadata := ← Json.required? ColumnMetadata.ofJson? "metadata" fields }

end ColumnRef

/-! ## expressions -/

namespace Expr

mutual

/-- The JSON form of an expression. -/
def toJson : Expr → Json
  | column c => .ofCase "Column" c.toJson
  | literal l => .ofCase "Literal" l.toJson
  | and es => .ofCase "Predicate" (.ofCase "And" (.array (toJsons es)))
  | or es => .ofCase "Predicate" (.ofCase "Or" (.array (toJsons es)))
  | not e => .ofCase "Predicate" (.ofCase "Not" (toJson e))
  | compare op l r =>
    .ofCase "Predicate" (.ofCase "Compare"
      (.object [("op", .ofWord op), ("left", toJson l), ("right", toJson r)]))
  | like e p =>
    .ofCase "Predicate" (.ofCase "Like"
      (.object [("expr", toJson e), ("pattern", toJson p), ("escape", .null)]))
  | likeEscape e p x =>
    .ofCase "Predicate" (.ofCase "Like"
      (.object [("expr", toJson e), ("pattern", toJson p), ("escape", toJson x)]))
  | between e l h =>
    .ofCase "Predicate" (.ofCase "Between"
      (.object [("expr", toJson e), ("low", toJson l), ("high", toJson h)]))
  | inList e es =>
    .ofCase "Predicate" (.ofCase "InList"
      (.object [("expr", toJson e), ("values", .array (toJsons es))]))
  | isNull e negated =>
    .ofCase "Predicate" (.ofCase "IsNull"
      (.object [("expr", toJson e), ("negated", .bool negated)]))
  | scalar f args =>
    .ofCase "Scalar" (.object [("function", .ofWord f), ("args", .array (toJsons args))])
  | aggregate f args distinct orderBy separator =>
    .ofCase "Aggregate"
      (.object [("function", .ofWord f), ("args", .array (toJsons args)),
        ("distinct", .bool distinct), ("order_by", .array (keysToJson orderBy)),
        ("separator", .ofOption .string separator)])
termination_by structural e => e

/-- The JSON forms of expressions. -/
def toJsons : List Expr → List Json
  | [] => []
  | e :: es => toJson e :: toJsons es
termination_by structural es => es

/-- The JSON forms of ordering keys. -/
def keysToJson : List (OrderKey Expr) → List Json
  | [] => []
  | ⟨e, ascending, nullsLast⟩ :: ks =>
    .object [("expr", toJson e), ("ascending", .bool ascending),
      ("nulls_last", .bool nullsLast)] :: keysToJson ks
termination_by structural ks => ks

end

/-- An ordering key, given the reader of expressions. -/
def keyOfJson? (expr? : Json → Option Expr) (j : Json) : Option (OrderKey Expr) := do
  let fields ← j.record? ["expr", "ascending", "nulls_last"] 3
  return ⟨← Json.required? expr? "expr" fields, ← Json.required? Json.bool? "ascending" fields,
    ← Json.required? Json.bool? "nulls_last" fields⟩

/-- A condition, given the reader of expressions. -/
def predicateOfJson? (expr? : Json → Option Expr) (j : Json) : Option Expr := do
  let (name, body) ← j.case?
  match name with
  | "And" => return and (← body.list? expr?)
  | "Or" => return or (← body.list? expr?)
  | "Not" => return not (← expr? body)
  | "Compare" =>
    let fields ← body.object?
    return compare (← Json.required? Json.word? "op" fields)
      (← Json.required? expr? "left" fields) (← Json.required? expr? "right" fields)
  | "Like" =>
    let fields ← body.object?
    let subject ← Json.required? expr? "expr" fields
    let pattern ← Json.required? expr? "pattern" fields
    match ← Json.optional? expr? "escape" fields with
    | none => return like subject pattern
    | some escape => return likeEscape subject pattern escape
  | "Between" =>
    let fields ← body.object?
    return between (← Json.required? expr? "expr" fields) (← Json.required? expr? "low" fields)
      (← Json.required? expr? "high" fields)
  | "InList" =>
    let fields ← body.object?
    return inList (← Json.required? expr? "expr" fields)
      (← Json.required? (Json.list? expr?) "values" fields)
  | "IsNull" =>
    let fields ← body.object?
    return isNull (← Json.required? expr? "expr" fields)
      (← Json.required? Json.bool? "negated" fields)
  | _ => none

/-- A scalar call, given the reader of expressions. -/
def scalarOfJson? (expr? : Json → Option Expr) (j : Json) : Option Expr := do
  let fields ← j.record? ["function", "args"] 2
  return scalar (← Json.required? Json.word? "function" fields)
    (← Json.required? (Json.list? expr?) "args" fields)

/-- An aggregate call, given the reader of expressions. -/
def aggregateOfJson? (expr? : Json → Option Expr) (j : Json) : Option Expr := do
  let fields ← j.record? ["function", "args", "distinct", "order_by", "separator"] 2
  return aggregate (← Json.required? Json.word? "function" fields)
    (← Json.required? (Json.list? expr?) "args" fields)
    (← Json.defaulted? Json.bool? false "distinct" fields)
    (← Json.defaulted? (Json.list? (keyOfJson? expr?)) [] "order_by" fields)
    (← Json.optional? Json.string? "separator" fields)

/-- The expression of a JSON form that nests at most `levels` levels. -/
def ofJsonWithin? : (levels : Nat) → Json → Option Expr
  | 0, _ => none
  | levels + 1, j => do
    let (name, body) ← j.case?
    match name with
    | "Column" => return column (← ColumnRef.ofJson? body)
    | "Literal" => return literal (← Literal.ofJson? body)
    | "Predicate" => predicateOfJson? (ofJsonWithin? levels) body
    | "Scalar" => scalarOfJson? (ofJsonWithin? levels) body
    | "Aggregate" => aggregateOfJson? (ofJsonWithin? levels) body
    | _ => none

/-- The expression of a JSON form. -/
def ofJson? (j : Json) : Option Expr :=
  ofJsonWithin? j.height j

end Expr

namespace OrderKey

/-- The ordering key of a JSON form. -/
def ofJson? (j : Json) : Option (OrderKey Expr) :=
  Expr.keyOfJson? Expr.ofJson? j

end OrderKey

/-! ## queries -/

namespace TableRef

/-- The JSON form of a table. -/
def toJson (t : TableRef) : Json :=
  .object [("catalog", .ofOption .string t.catalog), ("schema", .ofOption .string t.schema),
    ("name", .string t.name), ("alias", .ofOption .string t.aliasName),
    ("columns", .ofList ColumnMetadata.toJson t.columns)]

/-- The table of a JSON form. -/
def ofJson? (j : Json) : Option TableRef := do
  let fields ← j.record? ["catalog", "schema", "name", "alias", "columns"] 4
  return {
    catalog := ← Json.optional? Json.string? "catalog" fields
    schema := ← Json.optional? Json.string? "schema" fields
    name := ← Json.required? Json.string? "name" fields
    aliasName := ← Json.optional? Json.string? "alias" fields
    columns := ← Json.defaulted? (Json.list? ColumnMetadata.ofJson?) [] "columns" fields }

end TableRef

namespace SelectList

/-- The JSON form of a select list. -/
def toJson : SelectList → Json
  | star => .string "Star"
  | anyColumn => .string "AnyColumn"
  | exprs es => .ofCase "Exprs" (.array (Expr.toJsons es))

/-- The select list of a JSON form. -/
def ofJson? (j : Json) : Option SelectList :=
  if j.unit? = some "Star" then some star
  else if j.unit? = some "AnyColumn" then some anyColumn
  else do
    let (name, body) ← j.case?
    if name = "Exprs" then return exprs (← body.list? Expr.ofJson?) else none

end SelectList

namespace RowLimit

/-- A count of rows as a JSON number. -/
def countToJson (n : UInt64) : Json := .int n.toNat

/-- The JSON form of a window of rows. -/
def toJson (l : RowLimit) : Json :=
  .object [("count", .ofOption countToJson l.count), ("offset", .ofOption countToJson l.offset)]

/-- The window of rows of a JSON form. -/
def ofJson? (j : Json) : Option RowLimit := do
  let fields ← j.record? ["count", "offset"] 2
  return ⟨← Json.optional? Json.uint64? "count" fields,
    ← Json.optional? Json.uint64? "offset" fields⟩

end RowLimit

namespace Select

/-- The JSON form of a query. -/
def toJson (s : Select) : Json :=
  .object [("select_list", s.selectList.toJson), ("from", s.source.toJson),
    ("where_clause", .ofOption Expr.toJson s.filter),
    ("group_by", .array (Expr.toJsons s.groupBy)),
    ("having", .ofOption Expr.toJson s.having),
    ("order_by", .array (Expr.keysToJson s.orderBy)),
    ("limit", .ofOption RowLimit.toJson s.limit)]

/-- The query of a JSON form. -/
def ofJson? (j : Json) : Option Select := do
  let fields ← j.record?
    ["select_list", "from", "where_clause", "group_by", "having", "order_by", "limit"] 7
  return {
    selectList := ← Json.required? SelectList.ofJson? "select_list" fields
    source := ← Json.required? TableRef.ofJson? "from" fields
    filter := ← Json.optional? Expr.ofJson? "where_clause" fields
    groupBy := ← Json.defaulted? (Json.list? Expr.ofJson?) [] "group_by" fields
    having := ← Json.optional? Expr.ofJson? "having" fields
    orderBy := ← Json.defaulted? (Json.list? OrderKey.ofJson?) [] "order_by" fields
    limit := ← Json.optional? RowLimit.ofJson? "limit" fields }

end Select

end RemoteQuery
