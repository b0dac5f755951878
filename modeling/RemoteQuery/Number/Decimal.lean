import RemoteQuery.Text.Numeral

/-!
# RemoteQuery.Number.Decimal

Exact decimals: a sign, a magnitude of at most 96 bits and between 0 and 28
digits after the point.  The number of those digits is part of the value, so
`1.50` and `1.5` are different decimals.

* `Decimal.text` writes the decimal positionally with all its digits;
* `Decimal.ofText?` reads positional and exponent notation, rounding half up
  what does not fit after the point.
-/

namespace RemoteQuery

/-- The least number of more than 96 bits. -/
def Decimal.bound : Nat := Nat.pow 2 96

/-- A sign, a magnitude and the number of digits after the point. -/
structure Decimal where
  /-- Whether the value is written with a minus sign. -/
  negative : Bool
  /-- The digits as one number, without the point. -/
  magnitude : Nat
  /-- The number of digits after the point. -/
  scale : Nat
  /-- The magnitude has at most 96 bits. -/
  magnitude_lt : magnitude < Decimal.bound
  /-- At most 28 digits stand after the point. -/
  scale_le : scale ≤ 28
deriving DecidableEq

namespace Decimal

/-- A decimal from its parts, if they are in range; zero has no sign. -/
def ofParts? (negative : Bool) (magnitude scale : Nat) : Option Decimal :=
  if h : magnitude < bound ∧ scale ≤ 28 then
    some ⟨negative && magnitude != 0, magnitude, scale, h.1, h.2⟩
  else none

/-- An integer as a decimal without fraction digits, if it fits. -/
def ofInt? (n : Int) : Option Decimal :=
  ofParts? (decide (n < 0)) n.natAbs 0

theorem natAbs_toInt_lt (n : Int64) : n.toInt.natAbs < bound := by
  have h₁ := Int64.le_toInt n
  have h₂ := Int64.toInt_lt n
  have hb : bound = 79228162514264337593543950336 := rfl
  omega

/-- A 64-bit integer as a decimal without fraction digits. -/
def ofInt64 (n : Int64) : Decimal :=
  ⟨decide (n.toInt < 0), n.toInt.natAbs, 0, natAbs_toInt_lt n, Nat.zero_le _⟩

/-! ## writing -/

/-- The minus sign of a negative value. -/
def signText (negative : Bool) : String :=
  if negative then "-" else ""

/-- The digits before and after the point, at least one before it. -/
def text (d : Decimal) : String :=
  let ds := Text.padded (d.scale + 1) d.magnitude
  let whole := ds.toList.take (ds.length - d.scale)
  let fraction := ds.toList.drop (ds.length - d.scale)
  signText d.negative ++ String.ofList whole ++
    (if d.scale = 0 then "" else "." ++ String.ofList fraction)

/-- The value as an integer numeral, when nothing but zeros stands after the point. -/
def integerText? (d : Decimal) : Option String :=
  if d.magnitude % Nat.pow 10 d.scale = 0 then
    some (signText d.negative ++ toString (d.magnitude / Nat.pow 10 d.scale))
  else none

/-! ## reading -/

/-- The characters that may stand after the last digit that counts. -/
def isSurplus (c : Char) : Bool :=
  c.isDigit || c = '_'

/-- The digit at the front of a text, zero if there is none. -/
def frontDigit : List Char → Nat
  | c :: _ => if c.isDigit then Text.digitValue c else 0
  | [] => 0

/-- The magnitude and scale in front of a surplus: a digit from five on raises the last place, and
a magnitude that overflows by this gives up one place. -/
def roundAt (magnitude scale : Nat) (surplus : List Char) : Option (Nat × Nat) :=
  if surplus.all isSurplus then
    if frontDigit surplus < 5 then some (magnitude, scale)
    else if magnitude + 1 < bound then some (magnitude + 1, scale)
    else if scale = 0 then none
    else some ((magnitude + 5) / 10, scale - 1)
  else none

/-- Magnitudes below this bound are short: one more digit keeps them well within 64 bits. -/
def shortBound : Nat := (UInt64.size - 1) / 10 - 255

/-- What decides the rounding after the 28th place: underscores are skipped, except that one right
after that place stands for a zero if the magnitude was short before it. -/
def surplusAfter (magnitude : Nat) (cs : List Char) : List Char :=
  if magnitude < shortBound then cs else cs.dropWhile (· = '_')

/-- Digits with at most one point; underscores are skipped once a digit was seen.  After the last
digit that fits, the next one only decides the rounding and the others do not count; before the
point every digit has to fit. -/
def readDigits (seen point : Bool) (magnitude scale : Nat) : List Char → Option (Nat × Nat)
  | [] => if seen then some (magnitude, scale) else none
  | c :: cs =>
    if c.isDigit then
      let magnitude' := 10 * magnitude + Text.digitValue c
      let scale' := if point then scale + 1 else scale
      if magnitude' < bound then
        if scale' = 28 then roundAt magnitude' scale' (surplusAfter magnitude cs)
        else readDigits true point magnitude' scale' cs
      else if point then roundAt magnitude scale (c :: cs)
      else none
    else if c = '.' ∧ point = false then readDigits seen true magnitude scale cs
    else if c = '_' ∧ seen = true then readDigits seen point magnitude scale cs
    else none

/-- Positional notation: at most one sign, then digits. -/
def ofPositional? (cs : List Char) : Option Decimal := do
  let (negative, body) := match cs with
    | '-' :: rest => (true, rest)
    | '+' :: rest => (false, rest)
    | _ => (false, cs)
  let (magnitude, scale) ← readDigits false false 0 0 body
  ofParts? negative magnitude scale

/-- `n` divided by `10 ^ places`, a last dropped digit from five on rounding up. -/
def dropPlaces (places n : Nat) : Nat :=
  if places = 0 then n
  else
    let kept := n / Nat.pow 10 (places - 1)
    kept / 10 + (if 5 ≤ kept % 10 then 1 else 0)

/-- The point moved `places` to the left, dropping digits beyond the 28th after it. -/
def shiftLeft? (places : Nat) (d : Decimal) : Option Decimal :=
  if 28 < places then none
  else
    let excess := d.scale + places - 28
    let magnitude := dropPlaces excess d.magnitude
    let scale := min (d.scale + places) 28
    if h : magnitude < bound ∧ scale ≤ 28 then
      some ⟨d.negative, magnitude, scale, h.1, h.2⟩
    else none

/-- The point moved `places` to the right; digits beyond the point become an integer, which has
to fit. -/
def shiftRight? (places : Nat) (d : Decimal) : Option Decimal :=
  if places ≤ d.scale then
    some { d with scale := d.scale - places, scale_le := Nat.le_trans (Nat.sub_le _ _) d.scale_le }
  else if 28 < places then none
  else ofParts? d.negative (d.magnitude * Nat.pow 10 (places - d.scale)) 0

/-- Exponent notation: a positional part, `e` or `E`, and a signed exponent. -/
def ofExponent? (cs : List Char) : Option Decimal := do
  let isMark := fun c : Char => c = 'e' || c = 'E'
  let base ← ofPositional? (cs.takeWhile fun c => !isMark c)
  match cs.dropWhile fun c => !isMark c with
  | [] => none
  | _ :: '-' :: places => (Text.natural? UInt32.size places).bind fun n => base.shiftLeft? n
  | _ :: places => (Text.natural? UInt32.size places).bind fun n => base.shiftRight? n

/-- A decimal in positional or exponent notation. -/
def ofText? (s : String) : Option Decimal :=
  ofPositional? s.toList <|> ofExponent? s.toList

end Decimal

end RemoteQuery
