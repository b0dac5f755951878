import RemoteQuery.Calendar.Date

/-!
# RemoteQuery.Calendar.Timestamp

Points in time without a time zone, to the nanosecond: their exact text, their
text in milliseconds, and the reader of the exact text.
-/

namespace RemoteQuery

/-- A day and a time of day; second 60 is a leap second. -/
structure Timestamp where
  date : Date
  hour : Nat
  minute : Nat
  second : Nat
  nanosecond : Nat
  hour_lt : hour < 24
  minute_lt : minute < 60
  second_le : second ≤ 60
  nanosecond_lt : nanosecond < 1000000000
deriving DecidableEq

namespace Timestamp

/-- The timestamp with the given parts, if they are in range. -/
def ofParts? (date : Date) (hour minute second nanosecond : Nat) : Option Timestamp :=
  if h : hour < 24 ∧ minute < 60 ∧ second ≤ 60 ∧ nanosecond < 1000000000 then
    some ⟨date, hour, minute, second, nanosecond, h.1, h.2.1, h.2.2.1, h.2.2.2⟩
  else none

/-- Hours, minutes and seconds, two digits each. -/
def clockText (t : Timestamp) : String :=
  Text.padded 2 t.hour ++ ":" ++ Text.padded 2 t.minute ++ ":" ++ Text.padded 2 t.second

/-- The fraction of a second: nothing, or the first of 3, 6 and 9 digits that is exact. -/
def fractionText (nanosecond : Nat) : String :=
  if nanosecond = 0 then ""
  else if nanosecond % 1000000 = 0 then "." ++ Text.padded 3 (nanosecond / 1000000)
  else if nanosecond % 1000 = 0 then "." ++ Text.padded 6 (nanosecond / 1000)
  else "." ++ Text.padded 9 nanosecond

/-- The exact text: day, `T`, time of day. -/
def text (t : Timestamp) : String :=
  t.date.text ++ "T" ++ t.clockText ++ fractionText t.nanosecond

/-- Day and time of day with three digits of a second; the others are cut off. -/
def millisecondText (t : Timestamp) : String :=
  t.date.text ++ " " ++ t.clockText ++ "." ++ Text.padded 3 (t.nanosecond / 1000000)

/-! ## reading -/

/-- An optional fraction of a second at the front of a text, in nanoseconds; digits after the
ninth are skipped. -/
def takeFraction? (cs : List Char) : Option (Nat × List Char) :=
  match cs with
  | '.' :: rest => do
    let ds := (rest.take 9).takeWhile Char.isDigit
    let n ← Text.digits? ds
    return (n * Nat.pow 10 (9 - ds.length), (rest.drop ds.length).dropWhile Char.isDigit)
  | _ => some (0, cs)

/-- The timestamp written in a text; blanks may stand before each part and at the end. -/
def ofText? (s : String) : Option Timestamp := do
  let (date, cs) ← Date.take? s.toList
  let cs ← Date.mark? 'T' cs
  let (hour, cs) ← Date.twoDigits? cs
  let cs ← Date.mark? ':' cs
  let (minute, cs) ← Date.twoDigits? cs
  let cs ← Date.mark? ':' cs
  let (second, cs) ← Date.twoDigits? cs
  let (nanosecond, cs) ← takeFraction? cs
  if Text.dropBlanks cs = [] then ofParts? date hour minute second nanosecond else none

end Timestamp

end RemoteQuery
