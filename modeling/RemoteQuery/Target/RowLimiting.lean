import RemoteQuery.Vocabulary

/-!
# RemoteQuery.Target.RowLimiting

The four ways targets limit the rows of a query.  A way of limiting is a plan:
what it asks of the inner query, and how it completes the inner text.
-/

namespace RemoteQuery

/-- How a target limits rows. -/
inductive LimitStrategy where
  /-- `... LIMIT n [OFFSET m]` -/
  | trailing
  /-- `... FETCH FIRST n ROWS ONLY` -/
  | fetchFirst
  /-- `SELECT TOP n ...` -/
  | top
  /-- Nested queries filtered on `ROWNUM`. -/
  | rowNum
deriving DecidableEq

namespace LimitStrategy

instance : Vocabulary LimitStrategy where
  members := [trailing, fetchFirst, top, rowNum]
  word
    | trailing => "Trailing"
    | fetchFirst => "FetchFirst"
    | top => "Top"
    | rowNum => "RowNum"
  mem_members a := by cases a <;> decide
  nodup_words := by decide +kernel

/-- Whether rows can be skipped. -/
def supportsOffset : LimitStrategy → Bool
  | trailing | rowNum => true
  | fetchFirst | top => false

end LimitStrategy

/-- What a limit needs from the inner query. -/
structure InnerRequest where
  /-- A row count written after `SELECT`. -/
  top : Option UInt64 := none
  /-- Whether the items of the select list get positional aliases. -/
  positionalAliases : Bool := false
deriving DecidableEq

/-- The text of an inner query and the number of its select items. -/
structure InnerQuery where
  sql : String
  columnCount : Nat

/-- A limit put into words: the request to the inner query and the completion of its text. -/
structure LimitPlan where
  request : InnerRequest
  complete : InnerQuery → String

/-- Why a window of rows cannot be expressed. -/
inductive LimitError where
  | offsetUnsupported (strategy : LimitStrategy)
  | windowOverflow
deriving DecidableEq

/-- The alias of the select item at an index. -/
def positionalAlias (index : Nat) : String :=
  "c" ++ toString index

/-- The name of the limited inner query. -/
def limitSubselect : String := "LIMIT_SUBSELECT"

/-- The name of the row number of the inner query. -/
def rowNumColumn : String := "ROWNUM_SUB"

namespace LimitPlan

/-- The first `count` rows by a filter on the row number. -/
def rowNumFirst (count : UInt64) : LimitPlan where
  request := {}
  complete inner :=
    "SELECT " ++ limitSubselect ++ ".* FROM (" ++ inner.sql ++ ") " ++ limitSubselect ++
      " WHERE ROWNUM <= " ++ toString count.toNat

/-- The rows from `offset` up to `upper` by two filters on the row number; the positional aliases
keep the row number out of the result. -/
def rowNumWindow (offset upper : UInt64) : LimitPlan where
  request := { positionalAliases := true }
  complete inner :=
    let columns := ", ".intercalate ((List.range inner.columnCount).map positionalAlias)
    "SELECT " ++ columns ++ " FROM (SELECT " ++ limitSubselect ++ ".*, ROWNUM " ++ rowNumColumn ++
      " FROM (" ++ inner.sql ++ ") " ++ limitSubselect ++ " WHERE ROWNUM <= " ++
      toString upper.toNat ++ ") WHERE " ++ rowNumColumn ++ " > " ++ toString offset.toNat

end LimitPlan

namespace LimitStrategy

/-- The plan for a window of `count` rows after the first `offset`. -/
def plan (strategy : LimitStrategy) (count : UInt64) (offset : Option UInt64) :
    Except LimitError LimitPlan :=
  match strategy, offset with
  | trailing, none =>
    .ok { request := {}, complete := fun inner => inner.sql ++ " LIMIT " ++ toString count.toNat }
  | trailing, some m =>
    .ok { request := {}
          complete := fun inner => inner.sql ++ " LIMIT " ++ toString count.toNat ++ " OFFSET " ++
            toString m.toNat }
  | fetchFirst, none =>
    .ok { request := {}
          complete := fun inner =>
            inner.sql ++ " FETCH FIRST " ++ toString count.toNat ++ " ROWS ONLY" }
  | top, none => .ok { request := { top := some count }, complete := fun inner => inner.sql }
  | rowNum, none => .ok (.rowNumFirst count)
  | rowNum, some m =>
    if count.toNat + m.toNat < UInt64.size then .ok (.rowNumWindow m (count + m))
    else .error .windowOverflow
  | fetchFirst, some _ | top, some _ => .error (.offsetUnsupported strategy)

end LimitStrategy

end RemoteQuery
