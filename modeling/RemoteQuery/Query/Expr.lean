import RemoteQuery.Query.Function
import RemoteQuery.Query.Literal
import RemoteQuery.Types.Canonical
import RemoteQuery.Text.Ascii

/-!
# RemoteQuery.Query.Expr

Expressions of a query: columns, constants, conditions, scalar calls and
aggregate calls.

A function on expressions is defined together with its version for lists of
expressions and, where aggregates are entered, for lists of ordering keys.
-/

namespace RemoteQuery

/-- A column as the remote schema declares it. -/
structure ColumnMetadata where
  name : String
  dataType : CanonicalType
  /-- Native name of the type. -/
  typeName : String
deriving DecidableEq

namespace ColumnMetadata

/-- Whether the native type name is `name` in any case. -/
def isNative (c : ColumnMetadata) (name : String) : Bool :=
  Text.sameWord c.typeName name

/-- The native type name in capitals. -/
def nativeUpper (c : ColumnMetadata) : String :=
  c.typeName.toUpper

end ColumnMetadata

/-- A reference to a column of the queried table. -/
structure ColumnRef where
  table : String
  tableAlias : Option String
  ordinal : UInt64
  metadata : ColumnMetadata
deriving DecidableEq

/-- The name a column is qualified with: the alias of the table if there is one. -/
def ColumnRef.qualifier (c : ColumnRef) : String :=
  c.tableAlias.getD c.table

/-- Comparison operators. -/
inductive CompareOp where
  | equal | notEqual | less | lessEqual | greater | greaterEqual
deriving DecidableEq

namespace CompareOp

instance : Vocabulary CompareOp where
  members := [equal, notEqual, less, lessEqual, greater, greaterEqual]
  word
    | equal => "EQUAL"
    | notEqual => "NOT_EQUAL"
    | less => "LESS"
    | lessEqual => "LESS_EQUAL"
    | greater => "GREATER"
    | greaterEqual => "GREATER_EQUAL"
  mem_members a := by cases a <;> decide
  nodup_words := by decide +kernel

/-- The symbol written between the two sides. -/
def symbol : CompareOp → String
  | equal => "="
  | notEqual => "<>"
  | less => "<"
  | lessEqual => "<="
  | greater => ">"
  | greaterEqual => ">="

end CompareOp

/-- An ordering key over expressions of type `α`. -/
structure OrderKey (α : Type) where
  expr : α
  ascending : Bool
  /-- Whether absent values come after all others. -/
  nullsLast : Bool

/-- Expressions. -/
inductive Expr where
  | column (ref : ColumnRef)
  | literal (value : Literal)
  | and (operands : List Expr)
  | or (operands : List Expr)
  | not (operand : Expr)
  | compare (op : CompareOp) (left right : Expr)
  | like (subject pattern : Expr)
  | likeEscape (subject pattern escape : Expr)
  | between (subject low high : Expr)
  | inList (subject : Expr) (values : List Expr)
  | isNull (subject : Expr) (negated : Bool)
  | scalar (function : ScalarFunction) (args : List Expr)
  | aggregate (function : AggregateFunction) (args : List Expr) (distinct : Bool)
      (orderBy : List (OrderKey Expr)) (separator : Option String)

namespace Expr

/-- Whether the expression is a plain column. -/
def isColumn : Expr → Bool
  | column _ => true
  | _ => false

/-- Whether the expression is a condition. -/
def isPredicate : Expr → Bool
  | column _ | literal _ | scalar .. | aggregate .. => false
  | _ => true

/-- The direct operands of a condition, in the order they are written. -/
def operands : Expr → List Expr
  | and es | or es => es
  | not e => [e]
  | compare _ l r => [l, r]
  | like e p => [e, p]
  | likeEscape e p x => [e, p, x]
  | between e l h => [e, l, h]
  | inList e es => e :: es
  | isNull e _ => [e]
  | column _ | literal _ | scalar .. | aggregate .. => []

mutual

/-- Whether the written expression holds together beside an operator.  Of the conditions only
junctions do, because they are written in parentheses; one with a single operand is written as
that operand. -/
def isDelimited : Expr → Bool
  | and es | or es => isDelimitedJunction es
  | column _ | literal _ | scalar .. | aggregate .. => true
  | not _ | compare .. | like .. | likeEscape .. | between .. | inList .. | isNull .. => false
termination_by structural e => e

/-- Whether a junction of these operands holds together. -/
def isDelimitedJunction : List Expr → Bool
  | [e] => isDelimited e
  | _ => true
termination_by structural es => es

end

mutual

/-- Whether an aggregate call appears anywhere in the expression. -/
def containsAggregate : Expr → Bool
  | column _ | literal _ => false
  | and es | or es => anyContainsAggregate es
  | not e => e.containsAggregate
  | compare _ l r => l.containsAggregate || r.containsAggregate
  | like e p => e.containsAggregate || p.containsAggregate
  | likeEscape e p x => e.containsAggregate || p.containsAggregate || x.containsAggregate
  | between e l h => e.containsAggregate || l.containsAggregate || h.containsAggregate
  | inList e es => e.containsAggregate || anyContainsAggregate es
  | isNull e _ => e.containsAggregate
  | scalar _ args => anyContainsAggregate args
  | aggregate .. => true
termination_by structural e => e

/-- Whether an aggregate call appears in one of the expressions. -/
def anyContainsAggregate : List Expr → Bool
  | [] => false
  | e :: es => e.containsAggregate || anyContainsAggregate es
termination_by structural es => es

end

end Expr

end RemoteQuery
