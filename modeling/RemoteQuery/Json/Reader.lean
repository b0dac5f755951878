import RemoteQuery.Json.Value

/-!
# RemoteQuery.Json.Reader

JSON text as a value.  Every step of the reader consumes a character, so the
length of the text bounds the number of steps.  A value may not nest deeper than
`maxDepth`.
-/

namespace RemoteQuery.Json

/-- The blanks between tokens. -/
def isSpace (c : Char) : Bool :=
  c = ' ' || c = '\n' || c = '\t' || c = '\r'

/-- The text after its leading blanks. -/
def skipSpace (cs : List Char) : List Char :=
  cs.dropWhile isSpace

/-! ## strings -/

/-- The value of a hexadecimal digit. -/
def hexValue? (c : Char) : Option Nat :=
  if '0' ≤ c ∧ c ≤ '9' then some (c.toNat - '0'.toNat)
  else if 'a' ≤ c ∧ c ≤ 'f' then some (c.toNat - 'a'.toNat + 10)
  else if 'A' ≤ c ∧ c ≤ 'F' then some (c.toNat - 'A'.toNat + 10)
  else none

/-- The value of four hexadecimal digits. -/
def hexQuad? (a b c d : Char) : Option Nat := do
  let a ← hexValue? a
  let b ← hexValue? b
  let c ← hexValue? c
  let d ← hexValue? d
  return ((a * 16 + b) * 16 + c) * 16 + d

/-- The character of a code point outside of the surrogates. -/
def char? (n : Nat) : Option Char :=
  if h : n.isValidChar then some (Char.ofNatAux n h) else none

/-- The character that follows a backslash as a single letter. -/
def shortEscape? : Char → Option Char
  | '"' => some '"'
  | '\\' => some '\\'
  | '/' => some '/'
  | 'b' => some '\x08'
  | 'f' => some '\x0c'
  | 'n' => some '\n'
  | 'r' => some '\r'
  | 't' => some '\t'
  | _ => none

/-- The characters up to the closing quote, and the text after it.  Code points beyond the first
plane are written as a pair of escapes. -/
def stringBody : List Char → Option (List Char × List Char)
  | [] => none
  | '"' :: rest => some ([], rest)
  | '\\' :: 'u' :: a :: b :: c :: d :: rest =>
    match hexQuad? a b c d with
    | none => none
    | some high =>
      if 0xD800 ≤ high ∧ high < 0xDC00 then
        match rest with
        | '\\' :: 'u' :: e :: f :: g :: h :: rest =>
          match hexQuad? e f g h with
          | none => none
          | some low =>
            if 0xDC00 ≤ low ∧ low < 0xE000 then do
              let x ← char? (0x10000 + (high - 0xD800) * 0x400 + (low - 0xDC00))
              let (cs, rest) ← stringBody rest
              return (x :: cs, rest)
            else none
        | _ => none
      else do
        let x ← char? high
        let (cs, rest) ← stringBody rest
        return (x :: cs, rest)
  | '\\' :: e :: rest => do
    let x ← shortEscape? e
    let (cs, rest) ← stringBody rest
    return (x :: cs, rest)
  | c :: rest =>
    if c.toNat < 0x20 ∨ c = '\\' then none
    else do
      let (cs, rest) ← stringBody rest
      return (c :: cs, rest)

/-! ## numbers -/

/-- The characters a number can consist of. -/
def isNumberChar (c : Char) : Bool :=
  c.isDigit || c = '-' || c = '+' || c = '.' || c = 'e' || c = 'E'

/-- The shape of a number after its sign: the digits before the point, which start with a zero
only if there is no other, whether it is followed by a fraction or exponent, and that both are
well formed. -/
def numberShape? (cs : List Char) : Option (List Char × Bool) :=
  let whole := cs.takeWhile Char.isDigit
  let rest := cs.dropWhile Char.isDigit
  let wholeOk := whole ≠ [] ∧ (whole.head? = some '0' → whole.length = 1)
  let (fractionOk, afterFraction) := match rest with
    | '.' :: r => (!(r.takeWhile Char.isDigit).isEmpty, r.dropWhile Char.isDigit)
    | r => (true, r)
  let exponentOk := match afterFraction with
    | [] => true
    | c :: r => (c = 'e' || c = 'E') && (Double.exponent? r).isSome
  if wholeOk ∧ fractionOk ∧ exponentOk then some (whole, !rest.isEmpty) else none

/-- The value of a number.  An integer that does not have 64 bits, and the negative zero, are
doubles; a number too large for a double has no value. -/
def number? (cs : List Char) : Option Json := do
  let (negative, body) := match cs with
    | '-' :: r => (true, r)
    | r => (false, r)
  let (whole, isReal) ← numberShape? body
  let n := Nat.ofDigitChars 10 whole 0
  if !isReal && !negative && n < UInt64.size then return int n
  else if !isReal && negative && n ≠ 0 && n ≤ Int64.minValue.toInt.natAbs then return int (-(n : Int))
  else
    let x ← Double.ofUnsigned? negative body
    if x.isFinite then return real x else none

/-! ## values -/

mutual

/-- The value at the front of a text, and the text after it. -/
def value (fuel : Nat) (cs : List Char) : Option (Json × List Char) :=
  match fuel with
  | 0 => none
  | fuel + 1 =>
    match skipSpace cs with
    | 'n' :: 'u' :: 'l' :: 'l' :: rest => some (null, rest)
    | 't' :: 'r' :: 'u' :: 'e' :: rest => some (bool true, rest)
    | 'f' :: 'a' :: 'l' :: 's' :: 'e' :: rest => some (bool false, rest)
    | '"' :: rest => (stringBody rest).map fun (s, rest) => (string (String.ofList s), rest)
    | '[' :: rest =>
      match skipSpace rest with
      | ']' :: rest => some (array [], rest)
      | rest => (items fuel rest).map fun (js, rest) => (array js, rest)
    | '\x7b' :: rest =>
      match skipSpace rest with
      | '\x7d' :: rest => some (object [], rest)
      | rest => (fields fuel rest).map fun (fs, rest) => (object fs, rest)
    | rest =>
      (number? (rest.takeWhile isNumberChar)).map fun j => (j, rest.dropWhile isNumberChar)

/-- The items of an array after its opening bracket. -/
def items (fuel : Nat) (cs : List Char) : Option (List Json × List Char) :=
  match fuel with
  | 0 => none
  | fuel + 1 => do
    let (j, rest) ← value fuel cs
    match skipSpace rest with
    | ']' :: rest => return ([j], rest)
    | ',' :: rest =>
      let (js, rest) ← items fuel rest
      return (j :: js, rest)
    | _ => none

/-- The fields of an object after its opening brace. -/
def fields (fuel : Nat) (cs : List Char) : Option (List (String × Json) × List Char) :=
  match fuel with
  | 0 => none
  | fuel + 1 =>
    match skipSpace cs with
    | '"' :: rest => do
      let (name, rest) ← stringBody rest
      match skipSpace rest with
      | ':' :: rest =>
        let (j, rest) ← value fuel rest
        match skipSpace rest with
        | '\x7d' :: rest => return ([(String.ofList name, j)], rest)
        | ',' :: rest =>
          let (fs, rest) ← fields fuel rest
          return ((String.ofList name, j) :: fs, rest)
        | _ => none
      | _ => none
    | _ => none

end

/-- The greatest depth of a value that is read. -/
def maxDepth : Nat := 127

/-- The value a text consists of, if it is not too deep. -/
def parse? (s : String) : Option Json :=
  match value (s.length + 1) s.toList with
  | some (j, rest) => if skipSpace rest = [] ∧ j.depth ≤ maxDepth then some j else none
  | none => none

end RemoteQuery.Json
