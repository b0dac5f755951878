import RemoteQuery.Capability.Set
import RemoteQuery.Query.Select

/-!
# RemoteQuery.Capability.Needs

The tokens a query needs.
-/

namespace RemoteQuery

/-- The token of a constant. -/
def Literal.capability : Literal → LiteralCapability
  | .null => .null
  | .bool _ => .bool
  | .exactNumeric _ => .exactNumeric
  | .double _ => .double
  | .date _ => .date
  | .timestamp _ => .timestamp
  | .string _ => .string
  | .interval .. => .interval

/-- The token of a comparison. -/
def CompareOp.capability : CompareOp → PredicateCapability
  | .equal => .equal
  | .notEqual => .notEqual
  | .less => .less
  | .lessEqual => .lessEqual
  | .greater => .greater
  | .greaterEqual => .greaterEqual

/-- The tokens of an aggregate call: its flavour, and for a concatenation everything it uses. -/
def AggregateFunction.capabilities (f : AggregateFunction) (rows distinct separated ordered : Bool) :
    List AggregateCapability :=
  match f with
  | .count => [if rows then .countStar else if distinct then .countDistinct else .count]
  | .sum => [if distinct then .sumDistinct else .sum]
  | .avg => [if distinct then .avgDistinct else .avg]
  | .min => [.min]
  | .max => [.max]
  | .median => [.median]
  | .stddev => [.stddev]
  | .variance => [.variance]
  | .groupConcat =>
    .groupConcat :: (if distinct then [.groupConcatDistinct] else []) ++
      (if separated then [.groupConcatSeparator] else []) ++
      (if ordered then [.groupConcatOrderBy] else [])

namespace Expr

open CapabilitySet

mutual

/-- The tokens an expression needs. -/
def needs : Expr → CapabilitySet
  | column _ => empty
  | literal l => ofLiterals [l.capability]
  | and es => ofPredicates [.and] ∪ needsAll es
  | or es => ofPredicates [.or] ∪ needsAll es
  | not e => ofPredicates [.not] ∪ e.needs
  | compare op l r => ofPredicates [op.capability] ∪ l.needs ∪ r.needs
  | like e p => ofPredicates [.like] ∪ e.needs ∪ p.needs
  | likeEscape e p x =>
    ofPredicates [.like, .likeEscape] ∪ e.needs ∪ p.needs ∪ x.needs
  | between e l h => ofPredicates [.between] ∪ e.needs ∪ l.needs ∪ h.needs
  | inList e es => ofPredicates [.inConstList] ∪ e.needs ∪ needsAll es
  | isNull e negated =>
    ofPredicates [if negated then .isNotNull else .isNull] ∪ e.needs
  | scalar f args => ofScalars [f] ∪ needsAll args
  | aggregate f args distinct orderBy separator =>
    ofAggregates (f.capabilities args.isEmpty distinct separator.isSome !orderBy.isEmpty) ∪
      needsAll args ∪ needsOfKeys orderBy
termination_by structural e => e

/-- The tokens expressions need together. -/
def needsAll : List Expr → CapabilitySet
  | [] => empty
  | e :: es => e.needs ∪ needsAll es
termination_by structural es => es

/-- The tokens the expressions of ordering keys need. -/
def needsOfKeys : List (OrderKey Expr) → CapabilitySet
  | [] => empty
  | ⟨e, _, _⟩ :: ks => e.needs ∪ needsOfKeys ks
termination_by structural ks => ks

end

/-- The shape of an ordering key. -/
def orderCapability (e : Expr) : MainCapability :=
  if e.isColumn then .orderByColumn else .orderByExpression

end Expr

namespace Select

open CapabilitySet

/-- The tokens of the select list. -/
def needsOfList : SelectList → CapabilitySet
  | .exprs es =>
    ofMain [if es.all Expr.isColumn then .selectListProjection else .selectListExpressions] ∪
      Expr.needsAll es
  | _ => empty

/-- The tokens of grouping; a query of aggregates without keys forms one group. -/
def needsOfGroups (s : Select) : CapabilitySet :=
  match s.groupBy with
  | [] => if s.hasAggregates then ofMain [.aggregateSingleGroup] else empty
  | keys =>
    ofMain [if keys.all Expr.isColumn then .aggregateGroupByColumn
      else .aggregateGroupByExpression] ∪ Expr.needsAll keys

/-- The tokens of a row limit. -/
def needsOfLimit : Option RowLimit → CapabilitySet
  | none => empty
  | some l => ofMain (if l.offset.isSome then [.limit, .limitWithOffset] else [.limit])

/-- The tokens of a clause with one expression. -/
def needsOfClause (token : MainCapability) : Option Expr → CapabilitySet
  | none => empty
  | some e => ofMain [token] ∪ e.needs

/-- Every token a query needs. -/
def needs (s : Select) : CapabilitySet :=
  needsOfList s.selectList ∪ needsOfClause .filterExpressions s.filter ∪
    s.needsOfGroups ∪ needsOfClause .aggregateHaving s.having ∪
    ofMain (s.orderBy.map fun k => k.expr.orderCapability) ∪ Expr.needsOfKeys s.orderBy ∪
    needsOfLimit s.limit

end Select

end RemoteQuery
