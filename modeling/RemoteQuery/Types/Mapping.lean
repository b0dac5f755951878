import RemoteQuery.Types.Canonical
import RemoteQuery.Types.Remote

/-!
# RemoteQuery.Types.Mapping

The mapping of the type families that every driver reports alike.  A dialect
claims its own types first; what it leaves falls through to `commonType`.
-/

namespace RemoteQuery

/-- What a number becomes whose precision is unknown or larger than a decimal holds. -/
inductive NumericFallback where
  | double
  | varchar
deriving DecidableEq

instance : Vocabulary NumericFallback where
  members := [.double, .varchar]
  word
    | .double => "Double"
    | .varchar => "Varchar"
  mem_members a := by cases a <;> simp
  nodup_words := by decide +kernel

/-- Size of the text a number of unknown precision is transported in. -/
def numericTextSize : Nat := 128

/-- Size of the text a time of day is transported in. -/
def timeTextSize : Nat := 100

/-- Precision and scale of the decimal that holds every number of the given precision and scale,
if there is one: a negative scale widens the precision, and a scale above it raises it. -/
def leastDecimal? (precision scale : Int) : Option (Nat × Nat) :=
  if precision ≤ 0 then none
  else
    let (p, s) := if scale < 0 then (precision - scale, 0) else (max precision scale, scale)
    if (CanonicalType.maxDecimalPrecision : Int) < p then none
    else some (p.toNat, s.toNat)

/-- The type of a number that no decimal holds; a text gets room for sign and point. -/
def fallbackType (precision : Int) : NumericFallback → CanonicalType
  | .double => .double
  | .varchar =>
    .cappedVarchar (if 0 < precision then precision + 2 else (numericTextSize : Int)) .utf8

/-- The type of a number of the given precision and scale. -/
def numericType (precision scale : Int) (fallback : NumericFallback) : CanonicalType :=
  match leastDecimal? precision scale with
  | some (p, s) => .decimal (UInt32.ofNat p) (UInt32.ofNat s)
  | none => fallbackType precision fallback

/-- The type of an integer column; without a reported size its width decides the precision. -/
def integralType (size : Int) (width : Int) (fallback : NumericFallback) : CanonicalType :=
  numericType (if 0 < size then size else width) 0 fallback

/-- The decimal digits of the integer types, by type code. -/
def integralWidth? (code : Int32) : Option Int :=
  if code = TypeCode.tinyint then some 3
  else if code = TypeCode.smallint then some 5
  else if code = TypeCode.integer then some 10
  else if code = TypeCode.bigint then some 19
  else none

/-- The type of a column by its code alone; what belongs to no common family is unsupported. -/
def commonType (r : RemoteType) (fallback : NumericFallback) : CanonicalType :=
  match integralWidth? r.typeCode with
  | some width => integralType r.size.toInt width fallback
  | none =>
    if r.typeCode ∈ [TypeCode.decimal, TypeCode.numeric] then
      numericType r.size.toInt r.scale.toInt fallback
    else if r.typeCode ∈ [TypeCode.real, TypeCode.float, TypeCode.double] then .double
    else if r.typeCode ∈ [TypeCode.char, TypeCode.nchar] then
      .cappedChar r.size.toInt .utf8
    else if r.typeCode ∈ [TypeCode.varchar, TypeCode.nvarchar, TypeCode.longvarchar,
        TypeCode.longnvarchar, TypeCode.clob, TypeCode.nclob] then
      .cappedVarchar r.size.toInt .utf8
    else if r.typeCode = TypeCode.date then .date
    else if r.typeCode = TypeCode.timestamp then .timestamp false
    else if r.typeCode = TypeCode.timestampWithTimezone then .timestamp true
    else if r.typeCode ∈ [TypeCode.time, TypeCode.timeWithTimezone] then
      .cappedVarchar timeTextSize .utf8
    else if r.typeCode = TypeCode.boolean then .boolean
    else if r.typeCode = TypeCode.bit ∧ r.size.toInt ≤ 1 then .boolean
    else .unsupported

end RemoteQuery
