import RemoteQuery.Query.Select

/-!
# RemoteQuery.Query.Build

Short names for putting expressions together.
-/

namespace RemoteQuery.Expr

/-- `left = right` -/
def eq (left right : Expr) : Expr := compare .equal left right

/-- `left <> right` -/
def ne (left right : Expr) : Expr := compare .notEqual left right

/-- `left < right` -/
def lt (left right : Expr) : Expr := compare .less left right

/-- `left <= right` -/
def le (left right : Expr) : Expr := compare .lessEqual left right

/-- `left > right` -/
def gt (left right : Expr) : Expr := compare .greater left right

/-- `left >= right` -/
def ge (left right : Expr) : Expr := compare .greaterEqual left right

/-- The exact literal of an integer. -/
def int (n : Int64) : Expr := literal (.ofInt64 n)

/-- A call of an aggregate function without ordering and separator. -/
def plainAggregate (f : AggregateFunction) (args : List Expr) (distinct : Bool) : Expr :=
  aggregate f args distinct [] none

/-- The number of rows. -/
def countRows : Expr := plainAggregate .count [] false

/-- The concatenation of the values of a group. -/
def groupConcat (e : Expr) (distinct : Bool) (orderBy : List (OrderKey Expr))
    (separator : Option String) : Expr :=
  aggregate .groupConcat [e] distinct orderBy separator

/-- An ordering key from small to large. -/
def asc (e : Expr) (nullsLast : Bool) : OrderKey Expr := ⟨e, true, nullsLast⟩

/-- An ordering key from large to small. -/
def desc (e : Expr) (nullsLast : Bool) : OrderKey Expr := ⟨e, false, nullsLast⟩

end RemoteQuery.Expr
