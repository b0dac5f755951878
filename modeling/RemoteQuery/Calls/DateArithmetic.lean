import RemoteQuery.Query.Function
import RemoteQuery.Calls.Form
import RemoteQuery.Text.Numeral

/-!
# RemoteQuery.Calls.DateArithmetic

Adding an amount of a unit to a date.  Targets differ in the form of the sum
and in the units they know; units they lack are expressed in smaller ones, and
amounts that are written as integers are converted at once.
-/

namespace RemoteQuery.Calls

/-- The value of a bare integer literal: an optional minus sign and digits. -/
def integerLiteral? (sql : String) : Option Int :=
  match sql.toList with
  | '-' :: ds => (Text.digits? ds).map fun n => -(n : Int)
  | ds => (Text.digits? ds).map fun n => (n : Int)

/-- Whether a text is a bare integer literal. -/
def isIntegerLiteral (sql : String) : Bool :=
  (integerLiteral? sql).isSome

/-- The integers of 64 bits. -/
def IsWord (n : Int) : Prop :=
  Int64.minValue.toInt ≤ n ∧ n ≤ Int64.maxValue.toInt

instance (n : Int) : Decidable (IsWord n) :=
  inferInstanceAs (Decidable (_ ∧ _))

/-- `factor` times an amount, computed when the amount is an integer literal and both it and the
product have 64 bits. -/
def multiplied (factor : Int) (amount : String) : String :=
  let product := "(" ++ toString factor ++ " * " ++ amount ++ ")"
  match integerLiteral? amount with
  | some n => if IsWord n ∧ IsWord (factor * n) then toString (factor * n) else product
  | none => product

/-- A number of weeks as a number of days. -/
def daysInWeeks (amount : String) : String :=
  multiplied 7 amount

/-- Units of time. -/
inductive DateUnit where
  | second | minute | hour | day | week | month | year
deriving DecidableEq

namespace DateUnit

/-- The unit a function adds. -/
def ofFunction? : ScalarFunction → Option DateUnit
  | .addSeconds => some second
  | .addMinutes => some minute
  | .addHours => some hour
  | .addDays => some day
  | .addWeeks => some week
  | .addMonths => some month
  | .addYears => some year
  | _ => none

/-- The word for the unit. -/
def keyword : DateUnit → String
  | second => "SECOND"
  | minute => "MINUTE"
  | hour => "HOUR"
  | day => "DAY"
  | week => "WEEK"
  | month => "MONTH"
  | year => "YEAR"

end DateUnit

/-- A date and the amount of a unit to add to it, both written. -/
structure DateAdd where
  unit : DateUnit
  value : String
  amount : String

namespace DateAdd

/-- The parts of a call that adds to a date; `none` for any other call. -/
def ofCall? (f : ScalarFunction) : List String → Option DateAdd
  | [value, amount] => (DateUnit.ofFunction? f).map fun unit => ⟨unit, value, amount⟩
  | _ => none

/-- The unit and the amount for a target without weeks. -/
def withoutWeeks (a : DateAdd) : DateUnit × String :=
  if a.unit = .week then (.day, daysInWeeks a.amount) else (a.unit, a.amount)

/-- `(value + n DAYS)` -/
def durationSum (a : DateAdd) : String :=
  let (unit, amount) := a.withoutWeeks
  let amount :=
    if isIntegerLiteral amount ∨ amount.toList.head? = some '(' then amount
    else "(" ++ amount ++ ")"
  "(" ++ a.value ++ " + " ++ amount ++ " " ++ unit.keyword ++ "S)"

/-- `DATEADD(DAY, n, value)` -/
def unitFirstCall (name : String) (a : DateAdd) : String :=
  call name [a.unit.keyword, a.amount, a.value]

/-- `DATE_ADD('day', n, value)` -/
def unitTextCall (name : String) (a : DateAdd) : String :=
  call name ["'" ++ a.unit.keyword.toLower ++ "'", a.amount, a.value]

/-- `DATE_ADD(value, INTERVAL n DAY)` -/
def intervalCall (name : String) (a : DateAdd) : String :=
  call name [a.value, "INTERVAL " ++ a.amount ++ " " ++ a.unit.keyword]

/-- `(value + INTERVAL 'n' DAY)`; an amount that is not an integer literal multiplies an interval
of one unit.  The precision follows the unit. -/
def intervalLiteral (precision : String) (a : DateAdd) : String :=
  let (unit, amount) := a.withoutWeeks
  let interval := fun n : String => "INTERVAL '" ++ n ++ "' " ++ unit.keyword ++ precision
  if isIntegerLiteral amount then "(" ++ a.value ++ " + " ++ interval amount ++ ")"
  else "(" ++ a.value ++ " + " ++ amount ++ " * " ++ interval "1" ++ ")"

end DateAdd

end RemoteQuery.Calls
