import RemoteQuery.Text.Ascii
import RemoteQuery.Text.Numeral

/-!
# RemoteQuery.Number.Double

Double precision numbers: not-a-number, the infinities and `± m · 2 ^ q` with a
significand `m` of at most 53 bits.

`Double.nearest` is the double nearest to a decimal value, a tie going to the
even significand; `Double.ofText?` reads decimal text by it.
-/

namespace RemoteQuery

/-- A double precision number; a finite one is `± significand * 2 ^ exponent`. -/
inductive Double where
  | nan
  | infinity (negative : Bool)
  | finite (negative : Bool) (significand : Nat) (exponent : Int)
deriving DecidableEq

namespace Double

/-- Whether the number is neither infinite nor not-a-number. -/
def isFinite : Double → Bool
  | finite .. => true
  | _ => false

/-- The least exponent of a finite double. -/
def minExponent : Int := -1074

/-- The greatest exponent of a finite double. -/
def maxExponent : Int := 971

/-- `num / den` rounded to the nearest integer, a tie to the even one. -/
def roundDiv (num den : Nat) : Nat :=
  let q := num / den
  let twice := 2 * (num % den)
  if twice < den then q
  else if den < twice then q + 1
  else q + q % 2

/-- The largest `l` with `2 ^ l ≤ num / den`, for positive `num` and `den`. -/
def logTwo (num den : Nat) : Int :=
  let l : Int := (num.log2 : Int) - (den.log2 : Int)
  if den * Nat.pow 2 l.toNat ≤ num * Nat.pow 2 (-l).toNat then l else l - 1

/-- The double nearest to `± num / den`, for positive `den`. -/
def ofFraction (negative : Bool) (num den : Nat) : Double :=
  if num = 0 then finite negative 0 minExponent
  else
    let q := max (logTwo num den - 52) minExponent
    let m := roundDiv (num * Nat.pow 2 (-q).toNat) (den * Nat.pow 2 q.toNat)
    let (m, q) := if m = Nat.pow 2 53 then (Nat.pow 2 52, q + 1) else (m, q)
    if maxExponent < q then infinity negative else finite negative m q

/-- The double nearest to `± digits * 10 ^ exponent`, where `digits` has at most `width` decimal
digits.  Values far outside the range are settled without computing the power. -/
def nearest (negative : Bool) (digits : Nat) (width : Nat) (exponent : Int) : Double :=
  if digits = 0 ∨ exponent + width < -400 then finite negative 0 minExponent
  else if 400 < exponent then infinity negative
  else ofFraction negative (digits * Nat.pow 10 exponent.toNat) (Nat.pow 10 (-exponent).toNat)

/-- The value of an exponent: an optional sign and digits. -/
def exponent? : List Char → Option Int
  | '-' :: cs => (Text.digits? cs).map fun n => -(n : Int)
  | '+' :: cs => (Text.digits? cs).map fun n => (n : Int)
  | cs => (Text.digits? cs).map fun n => (n : Int)

/-- Unsigned decimal text: digits with an optional point and an optional exponent; at least one
digit stands before or after the point. -/
def ofUnsigned? (negative : Bool) (cs : List Char) : Option Double := do
  let isMark := fun c : Char => c = 'e' || c = 'E'
  let mantissa := cs.takeWhile fun c => !isMark c
  let whole := mantissa.takeWhile fun c => c != '.'
  let fraction := (mantissa.dropWhile fun c => c != '.').drop 1
  let exponent ← match cs.dropWhile fun c => !isMark c with
    | [] => some 0
    | _ :: rest => exponent? rest
  let digits ← Text.digits? (whole ++ fraction)
  return nearest negative digits (whole ++ fraction).length (exponent - fraction.length)

/-- Decimal text with an optional sign; infinities and not-a-number are written as words in any
case. -/
def ofText? (s : String) : Option Double :=
  let (negative, body) := match s.toList with
    | '-' :: rest => (true, rest)
    | '+' :: rest => (false, rest)
    | cs => (false, cs)
  let word := String.ofList body
  if Text.sameWord word "nan" then some nan
  else if Text.sameWord word "inf" || Text.sameWord word "infinity" then some (infinity negative)
  else ofUnsigned? negative body

/-- The double nearest to an integer. -/
def ofInt (n : Int) : Double :=
  ofFraction (decide (n < 0)) n.natAbs 1

end Double

end RemoteQuery
