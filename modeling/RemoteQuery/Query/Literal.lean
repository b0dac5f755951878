import RemoteQuery.Number.Decimal
import RemoteQuery.Number.Double
import RemoteQuery.Calendar.Timestamp

/-!
# RemoteQuery.Query.Literal

Constant values of a query.
-/

namespace RemoteQuery

/-- The two flavours of interval constants, with the precisions they are declared with. -/
inductive IntervalKind where
  /-- A text of years and months. -/
  | yearToMonth (precision : UInt32)
  /-- A text of days, hours, minutes and seconds. -/
  | dayToSecond (precision fraction : UInt32)
deriving DecidableEq

/-- A constant value. -/
inductive Literal where
  | null
  | bool (value : Bool)
  | exactNumeric (value : Decimal)
  | double (value : Double)
  | date (value : Date)
  | timestamp (value : Timestamp)
  | string (value : String)
  | interval (value : String) (kind : IntervalKind)
deriving DecidableEq

namespace Literal

/-- The exact literal of a 64-bit integer. -/
def ofInt64 (n : Int64) : Literal :=
  exactNumeric (.ofInt64 n)

/-- The numeral of a literal that denotes an integer exactly. -/
def integerText? : Literal → Option String
  | exactNumeric d => d.integerText?
  | _ => none

/-- Whether the literal is written as a number. -/
def isNumeric : Literal → Bool
  | exactNumeric _ | double _ => true
  | _ => false

end Literal

end RemoteQuery
