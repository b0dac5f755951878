import RemoteQuery.Query.Expr

/-!
# RemoteQuery.Query.Select

Queries of a single table, and the steps by which one is put together.
-/

namespace RemoteQuery

/-- The queried table. -/
structure TableRef where
  catalog : Option String := none
  schema : Option String := none
  name : String
  aliasName : Option String := none
  /-- The declared columns, by ordinal. -/
  columns : List ColumnMetadata := []
deriving DecidableEq

namespace TableRef

/-- The table with one more declared column. -/
def addColumn (t : TableRef) (c : ColumnMetadata) : TableRef :=
  { t with columns := t.columns ++ [c] }

/-- A reference to a declared column with its ordinal. -/
def reference (t : TableRef) (ordinal : Nat) (c : ColumnMetadata) : ColumnRef where
  table := t.name
  tableAlias := t.aliasName
  ordinal := UInt64.ofNat ordinal
  metadata := c

/-- The column at an ordinal, if the table declares it. -/
def column? (t : TableRef) (ordinal : Nat) : Option ColumnRef :=
  t.columns[ordinal]?.map (t.reference ordinal)

/-- The first column of a name, if the table declares one. -/
def columnNamed? (t : TableRef) (name : String) : Option ColumnRef :=
  (t.columns.findIdx? fun c => c.name == name).bind t.column?

/-- Every declared column, in ordinal order. -/
def allColumns (t : TableRef) : List ColumnRef :=
  t.columns.zipIdx.map fun (c, i) => t.reference i c

end TableRef

/-- What a query returns. -/
inductive SelectList where
  /-- Every column of the table. -/
  | star
  /-- Any single column; only the number of rows matters. -/
  | anyColumn
  | exprs (items : List Expr)

/-- The window of rows a query returns.  A query with an offset and no count has no text. -/
structure RowLimit where
  count : Option UInt64
  offset : Option UInt64
deriving DecidableEq

/-- A query of a single table. -/
structure Select where
  selectList : SelectList := .star
  source : TableRef
  filter : Option Expr := none
  groupBy : List Expr := []
  having : Option Expr := none
  orderBy : List (OrderKey Expr) := []
  limit : Option RowLimit := none

namespace Select

/-- All rows and columns of a table. -/
def ofTable (t : TableRef) : Select where
  source := t

/-- The query with an explicit select list. -/
def withColumns (s : Select) (items : List Expr) : Select :=
  { s with selectList := .exprs items }

/-- The query that returns any single column. -/
def withAnyColumn (s : Select) : Select :=
  { s with selectList := .anyColumn }

/-- The query restricted to the rows of a condition. -/
def withFilter (s : Select) (e : Expr) : Select :=
  { s with filter := some e }

/-- The query grouped by keys. -/
def withGroupBy (s : Select) (keys : List Expr) : Select :=
  { s with groupBy := keys }

/-- The query restricted to the groups of a condition. -/
def withHaving (s : Select) (e : Expr) : Select :=
  { s with having := some e }

/-- The query ordered by keys. -/
def withOrderBy (s : Select) (keys : List (OrderKey Expr)) : Select :=
  { s with orderBy := keys }

/-- The query cut after `count` rows; an offset set before stays. -/
def withLimit (s : Select) (count : UInt64) : Select :=
  { s with limit := some ⟨some count, s.limit.bind (·.offset)⟩ }

/-- The query without its first `offset` rows; a count set before stays. -/
def withOffset (s : Select) (offset : UInt64) : Select :=
  { s with limit := some ⟨s.limit.bind (·.count), some offset⟩ }

/-- Whether an aggregate call appears in the select list or the group condition. -/
def hasAggregates (s : Select) : Bool :=
  (match s.selectList with
    | .exprs items => Expr.anyContainsAggregate items
    | _ => false) || s.having.any Expr.containsAggregate

end Select

end RemoteQuery
