import RemoteQuery.Query.Expr
import RemoteQuery.Target.Profile
import RemoteQuery.Text.Quoted

/-!
# RemoteQuery.Target.Basic

A target: its profile together with the rules it has beyond data.  Every
rule has a default, so a dialect states only where it differs.
-/

namespace RemoteQuery

/-- An aggregate call whose arguments are already written. -/
structure AggregateText where
  function : AggregateFunction
  args : List String
  distinct : Bool
  /-- The written ordering keys, without the keyword. -/
  orderBy : Option String
  /-- The raw separator. -/
  separator : Option String

namespace AggregateText

/-- The first argument; a star when there is none. -/
def arg (c : AggregateText) : String :=
  c.args.head?.getD "*"

/-- The keyword of a call over distinct values. -/
def distinctWord (c : AggregateText) : String :=
  if c.distinct then "DISTINCT " else ""

/-- The ordering keys, and without any the argument itself. -/
def orderOrSelf (c : AggregateText) : String :=
  c.orderBy.getD c.arg

/-- The separator as a literal, a comma by default. -/
def separatorLiteral (c : AggregateText) : String :=
  Text.stringLiteral (c.separator.getD ",")

end AggregateText

/-- An interval literal in the standard spelling. -/
def standardInterval (value : String) : IntervalKind → String
  | .yearToMonth p =>
    "INTERVAL " ++ Text.stringLiteral value ++ " YEAR(" ++ toString p.toNat ++ ") TO MONTH"
  | .dayToSecond p f =>
    "INTERVAL " ++ Text.stringLiteral value ++ " DAY(" ++ toString p.toNat ++ ") TO SECOND(" ++
      toString f.toNat ++ ")"

/-- A target of queries. -/
structure Target where
  profile : Profile
  /-- The types the target claims before the common mapping. -/
  claimType : RemoteType → Option CanonicalType := fun _ => none
  /-- How a column is wrapped that stands directly in the select list. -/
  transportForm : ColumnMetadata → String → Option String := fun _ _ => none
  /-- Scalar functions whose form is not a plain call. -/
  scalarForm : ScalarFunction → List String → Option String := fun _ _ => none
  /-- Aggregate functions whose form is not a plain call. -/
  aggregateForm : AggregateText → Option String := fun _ => none
  boolLiteral : Bool → String := fun b => if b then "TRUE" else "FALSE"
  dateLiteral : Date → String := fun d => "DATE '" ++ d.text ++ "'"
  timestampLiteral : Timestamp → String := fun t => "TIMESTAMP '" ++ t.millisecondText ++ "'"
  intervalLiteral : String → IntervalKind → String := standardInterval
  /-- How a number is written that stands directly in the select list. -/
  selectedNumber : String → String := id

namespace Target

/-- Truth values written as the numbers one and zero. -/
def numericBool (b : Bool) : String :=
  if b then "1" else "0"

/-- The type of a remote column: the target's claim, else the common mapping. -/
def mapType (t : Target) (r : RemoteType) : CanonicalType :=
  (t.claimType r).getD (commonType r t.profile.numericFallback)

end Target

end RemoteQuery
