import RemoteQuery.Calendar.Date
import RemoteQuery.Json.Value

/-!
# RemoteQuery.Toml.Scalar

The values of TOML that are written as one bare word: truth values, integers,
floats, dates and times.
-/

namespace RemoteQuery.Toml

/-- The characters of a bare word. -/
def isWordChar (c : Char) : Bool :=
  c.isAlphanum || c = '_' || c = '+' || c = '-' || c = '.' || c = ':'

/-- The digits of a run in which single underscores may stand between digits. -/
def digitGroups (isDigit : Char → Bool) (afterDigit : Bool) : List Char → Option (List Char)
  | [] => if afterDigit then some [] else none
  | '_' :: rest => if afterDigit then digitGroups isDigit false rest else none
  | c :: rest => if isDigit c then (digitGroups isDigit true rest).map (c :: ·) else none

/-- The sign of a number and the text after it. -/
def sign : List Char → Bool × List Char
  | '-' :: rest => (true, rest)
  | '+' :: rest => (false, rest)
  | cs => (false, cs)

/-- The digits of a whole number; a leading zero stands alone. -/
def wholeDigits? (cs : List Char) : Option (List Char) :=
  (digitGroups Char.isDigit false cs).filter fun ds => ds.length = 1 || ds.head? != some '0'

/-- The value of a hexadecimal digit. -/
def hexDigit (c : Char) : Nat :=
  if c.isDigit then c.toNat - '0'.toNat else (c.toLower.toNat - 'a'.toNat) + 10

/-- The value of digits in a base. -/
def ofDigits (base : Nat) (ds : List Char) : Nat :=
  ds.foldl (fun n c => base * n + hexDigit c) 0

/-- An integer of 64 bits: decimal with a sign, or in one of three other bases. -/
def integer? (cs : List Char) : Option Int :=
  let magnitude? := match cs with
    | '0' :: 'x' :: ds =>
      (digitGroups (fun c => c.isDigit || ('a' ≤ c.toLower && c.toLower ≤ 'f')) false ds).map
        (ofDigits 16)
    | '0' :: 'o' :: ds =>
      (digitGroups (fun c => '0' ≤ c && c ≤ '7') false ds).map (ofDigits 8)
    | '0' :: 'b' :: ds =>
      (digitGroups (fun c => c = '0' || c = '1') false ds).map (ofDigits 2)
    | _ => (wholeDigits? (sign cs).2).map (ofDigits 10)
  (magnitude?.map fun n : Nat => if (sign cs).1 then -(n : Int) else (n : Int)).filter fun n =>
    Int64.minValue.toInt ≤ n ∧ n ≤ Int64.maxValue.toInt

/-- A float: a whole part with a fraction, an exponent or both, or a word for infinity or
not-a-number.  Digits may not stand for the positive infinity. -/
def float? (cs : List Char) : Option Double := do
  let (negative, body) := sign cs
  if body = "inf".toList then return .infinity negative
  if body = "nan".toList then return .nan
  let isMark := fun c : Char => c = 'e' || c = 'E'
  let mantissa := body.takeWhile fun c => !isMark c
  let exponent := body.dropWhile fun c => !isMark c
  let fraction := mantissa.dropWhile fun c => c != '.'
  if fraction.isEmpty && exponent.isEmpty then none
  let whole ← wholeDigits? (mantissa.takeWhile fun c => c != '.')
  let fractionDigits ← match fraction with
    | [] => some []
    | _ :: ds => (digitGroups Char.isDigit false ds).map ('.' :: ·)
  let exponentDigits ← match exponent with
    | [] => some []
    | _ :: ds => (digitGroups Char.isDigit false (sign ds).2).map fun e =>
      'e' :: (if (sign ds).1 then ['-'] else []) ++ e
  (Double.ofUnsigned? negative (whole ++ fractionDigits ++ exponentDigits)).filter
    (· != .infinity false)

/-! ## dates and times -/

/-- Whether a text is a date of ten characters. -/
def isDate : List Char → Bool
  | [a, b, c, d, '-', e, f, '-', g, h] =>
    match Text.digits? [a, b, c, d], Text.digits? [e, f], Text.digits? [g, h] with
    | some year, some month, some day => decide (Calendar.IsDay year month day)
    | _, _, _ => false
  | _ => false

/-- Whether two digits are at most `most`. -/
def isUpTo (most : Nat) (a b : Char) : Bool :=
  ((Text.digits? [a, b]).filter (· ≤ most)).isSome

/-- The text after a time of day. -/
def afterTime? : List Char → Option (List Char)
  | a :: b :: ':' :: c :: d :: ':' :: e :: f :: rest =>
    if isUpTo 23 a b && isUpTo 59 c d && isUpTo 60 e f then
      match rest with
      | '.' :: ds =>
        if (ds.takeWhile Char.isDigit).isEmpty then none else some (ds.dropWhile Char.isDigit)
      | _ => some rest
    else none
  | _ => none

/-- Whether a text is an offset from universal time. -/
def isOffset : List Char → Bool
  | ['Z'] | ['z'] => true
  | [s, a, b, ':', c, d] => (s = '+' || s = '-') && isUpTo 23 a b && isUpTo 59 c d
  | _ => false

/-- Whether a text is a date, a time of day, or both with an optional offset. -/
def isMoment (cs : List Char) : Bool :=
  isDate cs || afterTime? cs = some [] ||
    match cs.drop 10 with
    | s :: time =>
      isDate (cs.take 10) && (s = 'T' || s = 't' || s = ' ') &&
        (match afterTime? time with
          | some [] => true
          | some offset => isOffset offset
          | none => false)
    | [] => false

/-- The value of a bare word.  A date or time is an object of its own. -/
def scalar? (cs : List Char) : Option Json :=
  if cs = "true".toList then some (.bool true)
  else if cs = "false".toList then some (.bool false)
  else
    match integer? cs, float? cs with
    | some n, _ => some (.int n)
    | none, some x => some (.real x)
    | none, none =>
      if isMoment cs then some (.ofCase "datetime" (.string (String.ofList cs))) else none

end RemoteQuery.Toml
