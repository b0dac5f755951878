import RemoteQuery.Number.Double.Shortest
import RemoteQuery.Query.Function
import RemoteQuery.Target.RowLimiting

/-!
# RemoteQuery.Render.Error

The faults of a query for which there is no text, with the part of the query
they are found in.
-/

namespace RemoteQuery

/-- Why a query has no text. -/
inductive QueryError where
  | offsetWithoutCount
  | limit (cause : LimitError)
  | emptySelectList
  | starWithoutColumns (table : String)
  | emptyAnd
  | emptyOr
  | emptyValueList
  | nonFiniteDouble (value : Double)
  | scalarArity (function : ScalarFunction) (accepted : Arity) (got : Nat)
  | aggregateArity (function : AggregateFunction) (got : Nat)
  | distinctWithoutArgument (function : AggregateFunction)
deriving DecidableEq

namespace QueryError

/-- The part of the query that is at fault. -/
def node : QueryError → String
  | offsetWithoutCount | limit _ => "limit"
  | emptySelectList | starWithoutColumns _ => "select list"
  | emptyAnd => "AND"
  | emptyOr => "OR"
  | emptyValueList => "IN"
  | nonFiniteDouble _ => "double literal"
  | scalarArity .. => "scalar function"
  | aggregateArity .. | distinctWithoutArgument _ => "aggregate function"

/-- What a wrong number of arguments is called. -/
def arityReason (name : String) (accepted : Arity) (got : Nat) : String :=
  name ++ " expects " ++ accepted.text ++ " argument(s), got " ++ toString got

/-- What is wrong with it. -/
def reason : QueryError → String
  | offsetWithoutCount => "an offset needs a row count"
  | limit (.offsetUnsupported s) => Vocabulary.word s ++ " pagination cannot express an offset"
  | limit .windowOverflow => "count plus offset overflows"
  | emptySelectList => "no expressions"
  | starWithoutColumns table => "cannot expand * without column metadata for " ++ table
  | emptyAnd | emptyOr => "no operands"
  | emptyValueList => "empty value list"
  | nonFiniteDouble x => x.plainText ++ " has no SQL representation"
  | scalarArity f accepted got => arityReason f.name accepted got
  | aggregateArity f got => arityReason f.name f.arity got
  | distinctWithoutArgument f => "DISTINCT " ++ f.name ++ " requires an argument"

/-- The message shown for the fault. -/
def message (e : QueryError) : String :=
  "Invalid AST at " ++ e.node ++ ": " ++ e.reason

end QueryError

end RemoteQuery
