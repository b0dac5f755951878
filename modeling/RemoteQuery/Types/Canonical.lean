import RemoteQuery.Vocabulary

/-!
# RemoteQuery.Types.Canonical

The fixed type system every remote column is mapped into, with constructors
that keep its limits: at most 36 decimal digits, 2 000 000 characters for a
varying text and 2 000 for a fixed one.
-/

namespace RemoteQuery

/-- Character set of a text type. -/
inductive Charset where
  | utf8
  | ascii
deriving DecidableEq

instance : Vocabulary Charset where
  members := [.utf8, .ascii]
  word
    | .utf8 => "UTF8"
    | .ascii => "ASCII"
  mem_members a := by cases a <;> simp
  nodup_words := by decide +kernel

/-- The types a remote column can have after mapping. -/
inductive CanonicalType where
  | boolean
  | decimal (precision scale : UInt32)
  | double
  | varchar (size : UInt32) (charset : Charset)
  | char (size : UInt32) (charset : Charset)
  | date
  | timestamp (localTimeZone : Bool)
  | intervalYearToMonth (precision : UInt32)
  | intervalDayToSecond (precision fraction : UInt32)
  | geometry (srid : UInt32)
  | unsupported
deriving DecidableEq

namespace CanonicalType

/-- Largest number of digits of a decimal. -/
def maxDecimalPrecision : Nat := 36

/-- Largest size of a varying text. -/
def maxVarcharSize : Nat := 2000000

/-- Largest size of a fixed text; wider ones become varying. -/
def maxCharSize : Nat := 2000

/-- A decimal with its precision brought between 1 and 36 and its scale capped by that. -/
def cappedDecimal (precision scale : Nat) : CanonicalType :=
  let p := min (max precision 1) maxDecimalPrecision
  decimal (UInt32.ofNat p) (UInt32.ofNat (min scale p))

/-- A varying text of the largest size. -/
def maxVarchar (charset : Charset) : CanonicalType :=
  varchar (UInt32.ofNat maxVarcharSize) charset

/-- A varying text; a size that is not positive or too large means the largest one. -/
def cappedVarchar (size : Int) (charset : Charset) : CanonicalType :=
  if size ≤ 0 ∨ (maxVarcharSize : Int) < size then maxVarchar charset
  else varchar (UInt32.ofNat size.toNat) charset

/-- A fixed text of at least one character, varying when it would be too wide. -/
def cappedChar (size : Int) (charset : Charset) : CanonicalType :=
  if (maxCharSize : Int) < size then cappedVarchar size charset
  else char (UInt32.ofNat (max size 1).toNat) charset

/-- Whether columns of this type can be transported. -/
def isSupported (t : CanonicalType) : Bool :=
  t != unsupported

/-- The name of the type as it is shown to a reader. -/
def display : CanonicalType → String
  | boolean => "BOOLEAN"
  | decimal p s => "DECIMAL(" ++ toString p.toNat ++ ", " ++ toString s.toNat ++ ")"
  | double => "DOUBLE"
  | varchar n c => "VARCHAR(" ++ toString n.toNat ++ ") " ++ Vocabulary.word c
  | char n c => "CHAR(" ++ toString n.toNat ++ ") " ++ Vocabulary.word c
  | date => "DATE"
  | timestamp false => "TIMESTAMP"
  | timestamp true => "TIMESTAMP WITH LOCAL TIME ZONE"
  | intervalYearToMonth p => "INTERVAL YEAR(" ++ toString p.toNat ++ ") TO MONTH"
  | intervalDayToSecond p f =>
    "INTERVAL DAY(" ++ toString p.toNat ++ ") TO SECOND(" ++ toString f.toNat ++ ")"
  | geometry srid => "GEOMETRY(" ++ toString srid.toNat ++ ")"
  | unsupported => "UNSUPPORTED"

end CanonicalType

end RemoteQuery
