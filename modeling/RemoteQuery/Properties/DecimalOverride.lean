import RemoteQuery.Text.Blank
import RemoteQuery.Text.Numeral
import RemoteQuery.Types.Canonical

/-!
# RemoteQuery.Properties.DecimalOverride

The decimal type forced onto numbers that no decimal holds, written
`precision,scale`.
-/

namespace RemoteQuery

/-- Why a text is no decimal override. -/
inductive OverrideError where
  | noComma
  | badPrecision
  | badScale
  | precisionOutOfRange
  | scaleExceedsPrecision
deriving DecidableEq

/-- What is wrong with the text. -/
def OverrideError.reason : OverrideError → String
  | noComma => "expected 'precision,scale'"
  | badPrecision => "precision is not a non-negative integer"
  | badScale => "scale is not a non-negative integer"
  | precisionOutOfRange =>
    "precision must be between 1 and " ++ toString CanonicalType.maxDecimalPrecision
  | scaleExceedsPrecision => "scale exceeds precision"

/-- A text that is no decimal override, as it was given. -/
structure InvalidOverride where
  raw : String
  cause : OverrideError
deriving DecidableEq

/-- A decimal type a configuration asks for. -/
structure DecimalOverride where
  precision : Nat
  scale : Nat
deriving DecidableEq

namespace DecimalOverride

/-- The name of the property that holds the override. -/
def property : String := "cast_number_to_decimal"

/-- A number of 32 bits, possibly between blanks. -/
def number? (cs : List Char) : Option Nat :=
  Text.natural? UInt32.size (Text.trim (String.ofList cs)).toList

/-- The override written as `precision,scale`, cut at the first comma. -/
def parse (raw : String) : Except InvalidOverride DecimalOverride :=
  match raw.toList.dropWhile (· != ',') with
  | [] => .error ⟨raw, .noComma⟩
  | _ :: after =>
    match number? (raw.toList.takeWhile (· != ',')), number? after with
    | none, _ => .error ⟨raw, .badPrecision⟩
    | some _, none => .error ⟨raw, .badScale⟩
    | some p, some s =>
      if p = 0 ∨ CanonicalType.maxDecimalPrecision < p then .error ⟨raw, .precisionOutOfRange⟩
      else if p < s then .error ⟨raw, .scaleExceedsPrecision⟩
      else .ok ⟨p, s⟩

end DecimalOverride

end RemoteQuery
