import RemoteQuery.Query.Select
import RemoteQuery.Render.Expr

/-!
# RemoteQuery.Render.Select

Queries in the words of a target.
-/

namespace RemoteQuery.Target

/-- `[catalog.][schema.]table[ alias]`, qualified only as the target requires; an empty part
stands for the default schema of a catalog. -/
def tableText (t : Target) (table : TableRef) : String :=
  let d := t.profile
  let catalog := if d.qualifiesCatalog then table.catalog else none
  let schema := if d.qualifiesSchema then table.schema else none
  let qualifiers := match catalog, schema with
    | some c, some s => [d.identifierText c, d.identifierText s]
    | some c, none => if d.qualifiesSchema then [d.identifierText c, ""] else [d.identifierText c]
    | none, some s => [d.identifierText s]
    | none, none => []
  ".".intercalate (qualifiers ++ [d.identifierText table.name]) ++
    (match table.aliasName with
      | some a => " " ++ d.identifierText a
      | none => "")

/-- Whether the target wraps a column of the table when it is selected. -/
def transportsAny (t : Target) (table : TableRef) : Bool :=
  table.allColumns.any fun c => (t.transportForm c.metadata (t.plainColumn c)).isSome

/-- The select items of every column of a table, in ordinal order. -/
def starItems (t : Target) (table : TableRef) : Except QueryError (List String) :=
  if table.columns.isEmpty then .error (.starWithoutColumns table.name)
  else .ok (table.allColumns.map fun c => t.columnText c .selectList)

/-- The texts of expressions that stand directly in the select list. -/
def renderItems (t : Target) : List Expr → Except QueryError (List String)
  | [] => .ok []
  | e :: es => do
    let sql ← t.render .selectList e
    let rest ← t.renderItems es
    return sql :: rest

/-- Items with their positional aliases. -/
def aliasItems (items : List String) : List String :=
  items.zipIdx.map fun (sql, i) => sql ++ " AS " ++ positionalAlias i

/-- The items of the select list; a star is kept where nothing has to be wrapped or aliased. -/
def selectItems (t : Target) (s : Select) (positionalAliases : Bool) :
    Except QueryError (List String) := do
  let items ← match s.selectList with
    | .star =>
      if positionalAliases || t.transportsAny s.source then t.starItems s.source else .ok ["*"]
    | .anyColumn => .ok ["1"]
    | .exprs [] => .error .emptySelectList
    | .exprs es => t.renderItems es
  return if positionalAliases then aliasItems items else items

/-- A clause with one expression, nothing when it is absent. -/
def clauseText (t : Target) (keyword : String) : Option Expr → Except QueryError String
  | none => .ok ""
  | some e => do return keyword ++ (← t.render .nested e)

/-- The grouping clause, nothing without keys. -/
def groupByText (t : Target) : List Expr → Except QueryError String
  | [] => .ok ""
  | keys => do return " GROUP BY " ++ ", ".intercalate (← t.renderAll keys)

/-- The ordering clause, nothing without keys. -/
def orderByText (t : Target) : List (OrderKey Expr) → Except QueryError String
  | [] => .ok ""
  | keys => do return " ORDER BY " ++ (← t.renderOrderBy keys)

/-- Everything after the select list. -/
def clauses (t : Target) (s : Select) : Except QueryError String := do
  let filter ← t.clauseText " WHERE " s.filter
  let groupBy ← t.groupByText s.groupBy
  let having ← t.clauseText " HAVING " s.having
  let orderBy ← t.orderByText s.orderBy
  return " FROM " ++ t.tableText s.source ++ filter ++ groupBy ++ having ++ orderBy

/-- The query without its row limit, as a limit requests it. -/
def innerQuery (t : Target) (s : Select) (request : InnerRequest) :
    Except QueryError InnerQuery := do
  let items ← t.selectItems s request.positionalAliases
  let rest ← t.clauses s
  let top := match request.top with
    | some n => "TOP " ++ toString n.toNat ++ " "
    | none => ""
  return ⟨"SELECT " ++ top ++ ", ".intercalate items ++ rest, items.length⟩

/-- The text of a query. -/
def generate (t : Target) (s : Select) : Except QueryError String :=
  match s.limit with
  | none => do return (← t.innerQuery s {}).sql
  | some ⟨none, _⟩ => .error .offsetWithoutCount
  | some ⟨some count, offset⟩ => do
    let plan ← (t.profile.limitStrategy.plan count offset).mapError .limit
    return plan.complete (← t.innerQuery s plan.request)

end RemoteQuery.Target
