import RemoteQuery.Query.Expr
import RemoteQuery.Render.Error
import RemoteQuery.Render.OrderBy
import RemoteQuery.Calls.Text

/-!
# RemoteQuery.Render.Expr

Expressions in the words of a target.  An expression that stands directly in
the select list may be converted for transport; everywhere else it is written
as it is.
-/

namespace RemoteQuery

/-- Where an expression stands. -/
inductive Position where
  /-- An item of the select list itself. -/
  | selectList
  /-- Anywhere else. -/
  | nested
deriving DecidableEq

namespace Target

/-- `qualifier.column` -/
def plainColumn (t : Target) (c : ColumnRef) : String :=
  t.profile.identifierText c.qualifier ++ "." ++ t.profile.identifierText c.metadata.name

/-- A column; directly in the select list the target may wrap it. -/
def columnText (t : Target) (c : ColumnRef) : Position → String
  | .selectList => (t.transportForm c.metadata (t.plainColumn c)).getD (t.plainColumn c)
  | .nested => t.plainColumn c

/-- A literal outside of the select list. -/
def plainLiteral (t : Target) : Literal → Except QueryError String
  | .null => .ok "NULL"
  | .bool b => .ok (t.boolLiteral b)
  | .exactNumeric d => .ok d.text
  | .double x => if x.isFinite then .ok x.text else .error (.nonFiniteDouble x)
  | .date d => .ok (t.dateLiteral d)
  | .timestamp ts => .ok (t.timestampLiteral ts)
  | .string s => .ok (Text.stringLiteral s)
  | .interval value kind => .ok (t.intervalLiteral value kind)

/-- A literal; directly in the select list the target may wrap a number. -/
def literalText (t : Target) (l : Literal) (p : Position) : Except QueryError String :=
  (t.plainLiteral l).map fun sql =>
    if l.isNumeric && p == .selectList then t.selectedNumber sql else sql

/-- A call result; directly in the select list it is cast if the target asks for it. -/
def callText (t : Target) (casts : Bool) (p : Position) (sql : String) : String :=
  if casts && p == .selectList then Calls.cast sql t.profile.doubleType else sql

end Target

/-- A written condition in parentheses, other expressions as they are: the form beside an
operator. -/
def Expr.delimit (e : Expr) (sql : String) : String :=
  if e.isDelimited then sql else "(" ++ sql ++ ")"

/-- A junction of written conditions; a single one stands for itself. -/
def junction (keyword : String) (empty : QueryError) : List String → Except QueryError String
  | [] => .error empty
  | [sql] => .ok sql
  | parts => .ok ("(" ++ (" " ++ keyword ++ " ").intercalate parts ++ ")")

namespace Target

mutual

/-- The text of an expression. -/
def render (t : Target) (p : Position) : Expr → Except QueryError String
  | .column c => .ok (t.columnText c p)
  | .literal l => t.literalText l p
  | .and es => do junction "AND" .emptyAnd (← t.renderAll es)
  | .or es => do junction "OR" .emptyOr (← t.renderAll es)
  | .not e => do
    let sql ← t.render .nested e
    return "NOT (" ++ sql ++ ")"
  | .compare op l r => do
    let left ← t.render .nested l
    let right ← t.render .nested r
    return l.delimit left ++ " " ++ op.symbol ++ " " ++ r.delimit right
  | .like e pattern => do
    let sql ← t.render .nested e
    let patternSql ← t.render .nested pattern
    return e.delimit sql ++ " LIKE " ++ pattern.delimit patternSql
  | .likeEscape e pattern escape => do
    let sql ← t.render .nested e
    let patternSql ← t.render .nested pattern
    let escapeSql ← t.render .nested escape
    return e.delimit sql ++ " LIKE " ++ pattern.delimit patternSql ++ " ESCAPE " ++
      escape.delimit escapeSql
  | .between e low high => do
    let sql ← t.render .nested e
    let lowSql ← t.render .nested low
    let highSql ← t.render .nested high
    return e.delimit sql ++ " BETWEEN " ++ low.delimit lowSql ++ " AND " ++ high.delimit highSql
  | .inList _ [] => .error .emptyValueList
  | .inList e values => do
    let sql ← t.render .nested e
    let valueSqls ← t.renderOperands values
    return e.delimit sql ++ " IN (" ++ ", ".intercalate valueSqls ++ ")"
  | .isNull e negated => do
    let sql ← t.render .nested e
    return e.delimit sql ++ (if negated then " IS NOT NULL" else " IS NULL")
  | .scalar f args =>
    if (t.profile.scalarArity f).admits args.length then do
      let argSqls ← t.renderOperands args
      return t.callText (t.profile.castsScalar f) p (t.scalarText f argSqls)
    else .error (.scalarArity f (t.profile.scalarArity f) args.length)
  | .aggregate f args distinct orderBy separator =>
    if !f.arity.admits args.length then .error (.aggregateArity f args.length)
    else if distinct && args.isEmpty then .error (.distinctWithoutArgument f)
    else do
      let argSqls ← t.renderOperands args
      let keys ← t.renderKeys orderBy
      let order := if orderBy.isEmpty then none else some (", ".intercalate keys)
      return t.callText (t.profile.castsAggregate f) p
        (t.aggregateText ⟨f, argSqls, distinct, order, separator⟩)
termination_by structural e => e

/-- The texts of expressions that stand anywhere but in the select list. -/
def renderAll (t : Target) : List Expr → Except QueryError (List String)
  | [] => .ok []
  | e :: es => do
    let sql ← t.render .nested e
    let rest ← t.renderAll es
    return sql :: rest
termination_by structural es => es

/-- The texts of expressions that stand beside operators or as arguments. -/
def renderOperands (t : Target) : List Expr → Except QueryError (List String)
  | [] => .ok []
  | e :: es => do
    let sql ← t.render .nested e
    let rest ← t.renderOperands es
    return e.delimit sql :: rest
termination_by structural es => es

/-- The texts of ordering keys. -/
def renderKeys (t : Target) : List (OrderKey Expr) → Except QueryError (List String)
  | [] => .ok []
  | ⟨e, ascending, nullsLast⟩ :: ks => do
    let sql ← t.render .nested e
    let rest ← t.renderKeys ks
    return (t.profile.sortKeys sql ascending nullsLast).map SortKey.text ++ rest
termination_by structural ks => ks

end

/-- The text of an expression beside an operator. -/
def renderOperand (t : Target) (e : Expr) : Except QueryError String := do
  let sql ← t.render .nested e
  return e.delimit sql

/-- The ordering keys of a clause, without the keyword. -/
def renderOrderBy (t : Target) (keys : List (OrderKey Expr)) : Except QueryError String := do
  return ", ".intercalate (← t.renderKeys keys)

end Target

end RemoteQuery
