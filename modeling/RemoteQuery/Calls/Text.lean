import RemoteQuery.Calls.Form
import RemoteQuery.Target.Basic

/-!
# RemoteQuery.Calls.Text

Calls in the words of a target: the target's own form of a function if it has
one, and the plain call under the target's name otherwise.
-/

namespace RemoteQuery

namespace AggregateText

/-- `NAME([DISTINCT ]expr ORDER BY keys SEPARATOR 'sep')` -/
def separatorClause (name : String) (c : AggregateText) : String :=
  name ++ "(" ++ c.distinctWord ++ c.arg ++ " ORDER BY " ++ c.orderOrSelf ++ " SEPARATOR " ++
    c.separatorLiteral ++ ")"

/-- `LISTAGG([DISTINCT ]expr, 'sep') WITHIN GROUP (ORDER BY keys)` -/
def listagg (c : AggregateText) : String :=
  "LISTAGG(" ++ c.distinctWord ++ c.arg ++ ", " ++ c.separatorLiteral ++
    ") WITHIN GROUP (ORDER BY " ++ c.orderOrSelf ++ ")"

end AggregateText

namespace Target

/-- The plain form of a scalar call. -/
def plainScalar (t : Target) (f : ScalarFunction) (args : List String) : String :=
  match f.operator? with
  | some op => Calls.operatorChain op args
  | none =>
    if f = .neg then Calls.negate args
    else if f.isKeyword then t.profile.scalarName f
    else Calls.call (t.profile.scalarName f) args

/-- The text of a scalar call. -/
def scalarText (t : Target) (f : ScalarFunction) (args : List String) : String :=
  (t.scalarForm f args).getD (t.plainScalar f args)

/-- The plain form of an aggregate call. -/
def plainAggregate (t : Target) (c : AggregateText) : String :=
  if c.function = .count ∧ c.args = [] then "COUNT(*)"
  else if c.function = .groupConcat then
    c.separatorClause (t.profile.aggregateName c.function)
  else
    t.profile.aggregateName c.function ++ "(" ++ c.distinctWord ++ ", ".intercalate c.args ++ ")"

/-- The text of an aggregate call. -/
def aggregateText (t : Target) (c : AggregateText) : String :=
  (t.aggregateForm c).getD (t.plainAggregate c)

end Target

end RemoteQuery
