import RemoteQuery.Vocabulary

/-!
# RemoteQuery.Capability.Token

The tokens in which a target states what it can do and a query states what it
needs.  Scalar functions are their own tokens.
-/

namespace RemoteQuery

/-- Shapes of a query. -/
inductive MainCapability where
  | selectListProjection | selectListExpressions | filterExpressions
  | aggregateSingleGroup | aggregateGroupByColumn | aggregateGroupByExpression | aggregateHaving
  | orderByColumn | orderByExpression
  | limit | limitWithOffset
deriving DecidableEq

namespace MainCapability

instance : Vocabulary MainCapability where
  members :=
    [selectListProjection, selectListExpressions, filterExpressions, aggregateSingleGroup,
     aggregateGroupByColumn, aggregateGroupByExpression, aggregateHaving, orderByColumn,
     orderByExpression, limit, limitWithOffset]
  word
    | selectListProjection => "SELECT_LIST_PROJECTION"
    | selectListExpressions => "SELECT_LIST_EXPRESSIONS"
    | filterExpressions => "FILTER_EXPRESSIONS"
    | aggregateSingleGroup => "AGGREGATE_SINGLE_GROUP"
    | aggregateGroupByColumn => "AGGREGATE_GROUP_BY_COLUMN"
    | aggregateGroupByExpression => "AGGREGATE_GROUP_BY_EXPRESSION"
    | aggregateHaving => "AGGREGATE_HAVING"
    | orderByColumn => "ORDER_BY_COLUMN"
    | orderByExpression => "ORDER_BY_EXPRESSION"
    | limit => "LIMIT"
    | limitWithOffset => "LIMIT_WITH_OFFSET"
  mem_members a := by cases a <;> decide
  nodup_words := by decide +kernel

end MainCapability

/-- Conditions. -/
inductive PredicateCapability where
  | and | or | not
  | equal | notEqual | less | lessEqual | greater | greaterEqual
  | like | likeEscape | between | inConstList | isNull | isNotNull
deriving DecidableEq

namespace PredicateCapability

instance : Vocabulary PredicateCapability where
  members :=
    [.and, .or, .not, equal, notEqual, less, lessEqual, greater, greaterEqual, like, likeEscape,
     between, inConstList, isNull, isNotNull]
  word
    | .and => "AND"
    | .or => "OR"
    | .not => "NOT"
    | equal => "EQUAL"
    | notEqual => "NOT_EQUAL"
    | less => "LESS"
    | lessEqual => "LESS_EQUAL"
    | greater => "GREATER"
    | greaterEqual => "GREATER_EQUAL"
    | like => "LIKE"
    | likeEscape => "LIKE_ESCAPE"
    | between => "BETWEEN"
    | inConstList => "IN_CONST_LIST"
    | isNull => "IS_NULL"
    | isNotNull => "IS_NOT_NULL"
  mem_members a := by cases a <;> decide
  nodup_words := by decide +kernel

end PredicateCapability

/-- Kinds of constants. -/
inductive LiteralCapability where
  | null | bool | date | timestamp | double | exactNumeric | string | interval
deriving DecidableEq

namespace LiteralCapability

instance : Vocabulary LiteralCapability where
  members := [null, bool, date, timestamp, double, exactNumeric, string, interval]
  word
    | null => "NULL"
    | bool => "BOOL"
    | date => "DATE"
    | timestamp => "TIMESTAMP"
    | double => "DOUBLE"
    | exactNumeric => "EXACT_NUMERIC"
    | string => "STRING"
    | interval => "INTERVAL"
  mem_members a := by cases a <;> decide
  nodup_words := by decide +kernel

end LiteralCapability

/-- Aggregates in the flavours a target may lack. -/
inductive AggregateCapability where
  | count | countStar | countDistinct | sum | sumDistinct | min | max | avg | avgDistinct
  | median | stddev | variance
  | groupConcat | groupConcatDistinct | groupConcatSeparator | groupConcatOrderBy
deriving DecidableEq

namespace AggregateCapability

instance : Vocabulary AggregateCapability where
  members :=
    [count, countStar, countDistinct, sum, sumDistinct, min, max, avg, avgDistinct, median,
     stddev, variance, groupConcat, groupConcatDistinct, groupConcatSeparator, groupConcatOrderBy]
  word
    | count => "COUNT"
    | countStar => "COUNT_STAR"
    | countDistinct => "COUNT_DISTINCT"
    | sum => "SUM"
    | sumDistinct => "SUM_DISTINCT"
    | min => "MIN"
    | max => "MAX"
    | avg => "AVG"
    | avgDistinct => "AVG_DISTINCT"
    | median => "MEDIAN"
    | stddev => "STDDEV"
    | variance => "VARIANCE"
    | groupConcat => "GROUP_CONCAT"
    | groupConcatDistinct => "GROUP_CONCAT_DISTINCT"
    | groupConcatSeparator => "GROUP_CONCAT_SEPARATOR"
    | groupConcatOrderBy => "GROUP_CONCAT_ORDER_BY"
  mem_members a := by cases a <;> decide
  nodup_words := by decide +kernel

end AggregateCapability

end RemoteQuery
