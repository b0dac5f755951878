import RemoteQuery.Text.Blank
import RemoteQuery.Text.Numeral

/-!
# RemoteQuery.Calendar.Date

Days of the proleptic Gregorian calendar, their text `YYYY-MM-DD` and its
reader.
-/

namespace RemoteQuery

namespace Calendar

/-- Whether a year has a 29th of February. -/
def isLeapYear (year : Int) : Bool :=
  year % 4 = 0 && (year % 100 != 0 || year % 400 = 0)

/-- The number of days of a month, zero if there is no such month. -/
def daysInMonth (year : Int) (month : Nat) : Nat :=
  match month with
  | 1 | 3 | 5 | 7 | 8 | 10 | 12 => 31
  | 4 | 6 | 9 | 11 => 30
  | 2 => if isLeapYear year then 29 else 28
  | _ => 0

/-- The years, months and days that name a day. -/
def IsDay (year : Int) (month day : Nat) : Prop :=
  (-262143 ≤ year ∧ year ≤ 262142) ∧ 1 ≤ day ∧ day ≤ daysInMonth year month

instance (year : Int) (month day : Nat) : Decidable (IsDay year month day) :=
  inferInstanceAs (Decidable (_ ∧ _))

end Calendar

/-- A day of the calendar. -/
structure Date where
  year : Int
  month : Nat
  day : Nat
  isDay : Calendar.IsDay year month day
deriving DecidableEq

namespace Date

/-- The day with the given parts, if there is one. -/
def ofParts? (year : Int) (month day : Nat) : Option Date :=
  if h : Calendar.IsDay year month day then some ⟨year, month, day, h⟩ else none

/-- A year has four digits; outside the years 0 to 9999 it also has a sign. -/
def yearText (year : Int) : String :=
  if 0 ≤ year ∧ year ≤ 9999 then Text.padded 4 year.natAbs
  else (if year < 0 then "-" else "+") ++ Text.padded 4 year.natAbs

/-- The text `YYYY-MM-DD`. -/
def text (d : Date) : String :=
  yearText d.year ++ "-" ++ Text.padded 2 d.month ++ "-" ++ Text.padded 2 d.day

/-! ## reading -/

/-- A character, possibly after blanks. -/
def mark? (c : Char) (cs : List Char) : Option (List Char) :=
  match Text.dropBlanks cs with
  | [] => none
  | d :: rest => if d = c then some rest else none

/-- A number of one or two digits, possibly after blanks. -/
def twoDigits? (cs : List Char) : Option (Nat × List Char) :=
  Text.takeNumber? 2 (Text.dropBlanks cs)

/-- A year, possibly after blanks: at most four digits, or a sign and any number of digits. -/
def year? (cs : List Char) : Option (Int × List Char) :=
  match Text.dropBlanks cs with
  | '-' :: rest => (Text.takeNumber? rest.length rest).map fun (n, r) => (-(n : Int), r)
  | '+' :: rest => (Text.takeNumber? rest.length rest).map fun (n, r) => ((n : Int), r)
  | rest => (Text.takeNumber? 4 rest).map fun (n, r) => ((n : Int), r)

/-- A day at the front of a text, and the text after it. -/
def take? (cs : List Char) : Option (Date × List Char) := do
  let (year, cs) ← year? cs
  let cs ← mark? '-' cs
  let (month, cs) ← twoDigits? cs
  let cs ← mark? '-' cs
  let (day, cs) ← twoDigits? cs
  let d ← ofParts? year month day
  return (d, cs)

/-- The day written in a text; blanks may stand before each part and at the end. -/
def ofText? (s : String) : Option Date := do
  let (d, rest) ← take? s.toList
  if Text.dropBlanks rest = [] then some d else none

end Date

end RemoteQuery
