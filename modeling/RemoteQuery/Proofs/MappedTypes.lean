import RemoteQuery.Proofs.Built
import Mathlib.Algebra.Group.Int.Defs
import Mathlib.Algebra.Group.Nat.Defs

/-!
# RemoteQuery.Proofs.MappedTypes

The types that remote columns are mapped into are well formed, and the numbers in
them are the exact ones.

A driver reports sizes and scales of 32 bits with a sign.  What is computed from
them is kept in a machine word, which does not hold every integer, and is cast to
a word without a sign in the end.  `…InWords` is the mapping with each of these
steps checked: it has no result as soon as a number leaves the word it is kept in.

* `CanonicalType.WellFormed` — what the types of the mapping have to satisfy;
* `wellFormed_commonType`, `wellFormed_of_claimType` — the common mapping and the
  claims of every dialect give such types;
* `commonTypeInWords_eq`, `Dialect.claimInWords_eq` — no step leaves its word;
* `Dialect.wellFormed_mapType` — both for every built dialect.
-/

namespace RemoteQuery

/-! ## machine words -/

/-- The machine integers that sizes and precisions are kept in. -/
inductive Word where
  | int64
  | uint32

namespace Word

/-- The least number a word holds. -/
def least : Word → Int
  | int64 => Int64.minValue.toInt
  | uint32 => 0

/-- The greatest number a word holds. -/
def greatest : Word → Int
  | int64 => Int64.maxValue.toInt
  | uint32 => UInt32.size - 1

/-- A number kept in a word, if the word holds it. -/
def keep? (w : Word) (n : Int) : Option Int :=
  if w.least ≤ n ∧ n ≤ w.greatest then some n else none

theorem keep?_int64 {n : Int} (h : -(2 ^ 63) ≤ n ∧ n < 2 ^ 63) : int64.keep? n = some n := by
  have hleast : int64.least = -(2 ^ 63) := rfl
  have hgreatest : int64.greatest = 2 ^ 63 - 1 := rfl
  rw [keep?, if_pos (by omega)]

theorem keep?_uint32 {n : Int} (h : 0 ≤ n ∧ n < 2 ^ 32) : uint32.keep? n = some n := by
  have hleast : uint32.least = 0 := rfl
  have hgreatest : uint32.greatest = 2 ^ 32 - 1 := rfl
  rw [keep?, if_pos (by omega)]

end Word

/-- Twice a number of 32 bits fits into 64 bits. -/
theorem keep?_twice (n : Int32) : Word.int64.keep? (n.toInt * 2) = some (n.toInt * 2) := by
  have hlow := n.le_toInt
  have hhigh := n.toInt_lt
  exact Word.keep?_int64 (by omega)

/-! ## building types -/

namespace CanonicalType

/-- The limits of the type system: a decimal has between 1 and 36 digits, and no more of them after
the point than there are; texts have at least one character and interval fields one digit. -/
def WellFormed : CanonicalType → Prop
  | decimal p s => 1 ≤ p.toNat ∧ p.toNat ≤ 36 ∧ s.toNat ≤ p.toNat
  | varchar n _ => 1 ≤ n.toNat ∧ n.toNat ≤ 2000000
  | char n _ => 1 ≤ n.toNat ∧ n.toNat ≤ 2000
  | intervalYearToMonth p => 1 ≤ p.toNat
  | intervalDayToSecond p f => 1 ≤ p.toNat ∧ 1 ≤ f.toNat
  | _ => True

@[simp] theorem wellFormed_boolean : boolean.WellFormed := trivial

@[simp] theorem wellFormed_double : double.WellFormed := trivial

@[simp] theorem wellFormed_date : date.WellFormed := trivial

@[simp] theorem wellFormed_timestamp (zoned : Bool) : (timestamp zoned).WellFormed := trivial

@[simp] theorem wellFormed_geometry (srid : UInt32) : (geometry srid).WellFormed := trivial

@[simp] theorem wellFormed_unsupported : unsupported.WellFormed := trivial

/-- A number below the bound of the word is the number in the word. -/
theorem toNat_ofNat {n : Nat} (h : n ≤ 2000000) : (UInt32.ofNat n).toNat = n :=
  UInt32.toNat_ofNat_of_lt' (Nat.lt_of_le_of_lt h (by decide))

@[simp] theorem wellFormed_cappedDecimal (precision scale : Nat) :
    (cappedDecimal precision scale).WellFormed := by
  have hmax : maxDecimalPrecision = 36 := rfl
  simp only [cappedDecimal, WellFormed]
  rw [toNat_ofNat (by omega), toNat_ofNat (by omega)]
  omega

@[simp] theorem wellFormed_maxVarchar (charset : Charset) : (maxVarchar charset).WellFormed := by
  rw [maxVarchar, WellFormed, toNat_ofNat (by decide)]
  decide

@[simp] theorem wellFormed_cappedVarchar (size : Int) (charset : Charset) :
    (cappedVarchar size charset).WellFormed := by
  have hmax : maxVarcharSize = 2000000 := rfl
  rw [cappedVarchar]
  split
  next => exact wellFormed_maxVarchar charset
  next h =>
    rw [WellFormed, toNat_ofNat (by omega)]
    omega

/-- A varying text has the size it is asked for, or the largest one where that is out of bounds. -/
theorem exists_cappedVarchar (size : Int) (charset : Charset) :
    ∃ n : UInt32, cappedVarchar size charset = .varchar n charset ∧
      (n.toNat : Int) = if size ≤ 0 then 2000000 else min 2000000 size := by
  have hmax : maxVarcharSize = 2000000 := rfl
  rw [cappedVarchar]
  split
  next h =>
    refine ⟨_, rfl, ?_⟩
    rw [toNat_ofNat (by omega)]
    omega
  next h =>
    refine ⟨_, rfl, ?_⟩
    rw [toNat_ofNat (by omega)]
    omega

@[simp] theorem wellFormed_cappedChar (size : Int) (charset : Charset) :
    (cappedChar size charset).WellFormed := by
  have hmax : maxCharSize = 2000 := rfl
  rw [cappedChar]
  split
  next => exact wellFormed_cappedVarchar size charset
  next h =>
    rw [WellFormed, toNat_ofNat (by omega)]
    omega

/-- A varying text, its size cast to a word. -/
def varcharInWords (size : Int) (charset : Charset) : Option CanonicalType :=
  if size ≤ 0 ∨ (maxVarcharSize : Int) < size then some (maxVarchar charset)
  else do
    let n ← Word.uint32.keep? size
    return varchar (UInt32.ofNat n.toNat) charset

/-- A fixed text, its size cast to a word. -/
def charInWords (size : Int) (charset : Charset) : Option CanonicalType :=
  if (maxCharSize : Int) < size then varcharInWords size charset
  else do
    let n ← Word.uint32.keep? (max size 1)
    return char (UInt32.ofNat n.toNat) charset

@[simp] theorem varcharInWords_eq (size : Int) (charset : Charset) :
    varcharInWords size charset = some (cappedVarchar size charset) := by
  have hmax : maxVarcharSize = 2000000 := rfl
  rw [varcharInWords, cappedVarchar]
  split
  next => rfl
  next h =>
    rw [Word.keep?_uint32 (by omega)]
    rfl

@[simp] theorem charInWords_eq (size : Int) (charset : Charset) :
    charInWords size charset = some (cappedChar size charset) := by
  have hmax : maxCharSize = 2000 := rfl
  rw [charInWords, cappedChar]
  split
  next => exact varcharInWords_eq size charset
  next h =>
    rw [Word.keep?_uint32 (by omega)]
    rfl

end CanonicalType

open CanonicalType

/-! ## numbers -/

/-- The numbers of 32 bits with a sign. -/
def FitsInt32 (n : Int) : Prop :=
  -(2 ^ 31) ≤ n ∧ n < 2 ^ 31

theorem fitsInt32_toInt (n : Int32) : FitsInt32 n.toInt :=
  ⟨n.le_toInt, n.toInt_lt⟩

/-- Precision and scale after a negative scale has widened the precision, in 64 bits. -/
def widenedInWords (precision scale : Int) : Option (Int × Int) :=
  if scale < 0 then (Word.int64.keep? (precision - scale)).map (·, 0)
  else some (max precision scale, scale)

/-- The least decimal that holds a number, cast to words once it is known to fit. -/
def leastDecimalInWords (precision scale : Int) : Option (Option (Nat × Nat)) :=
  if precision ≤ 0 then some none
  else do
    let (p, s) ← widenedInWords precision scale
    if (maxDecimalPrecision : Int) < p then return none
    else
      let p ← Word.uint32.keep? p
      let s ← Word.uint32.keep? s
      return some (p.toNat, s.toNat)

/-- The type of a number that no decimal holds, its width computed in 64 bits. -/
def fallbackInWords (precision : Int) : NumericFallback → Option CanonicalType
  | .double => some .double
  | .varchar => do
    let size ← if 0 < precision then Word.int64.keep? (precision + 2)
      else some (numericTextSize : Int)
    varcharInWords size .utf8

/-- The type of a number, computed in words. -/
def numericInWords (precision scale : Int) (fallback : NumericFallback) :
    Option CanonicalType := do
  match ← leastDecimalInWords precision scale with
  | some (p, s) => return .decimal (UInt32.ofNat p) (UInt32.ofNat s)
  | none => fallbackInWords precision fallback

/-- The decimal that holds a number is one of the type system. -/
theorem leastDecimal?_eq_some {precision scale : Int} {p s : Nat}
    (h : leastDecimal? precision scale = some (p, s)) : 1 ≤ p ∧ p ≤ 36 ∧ s ≤ p := by
  have hmax : maxDecimalPrecision = 36 := rfl
  unfold leastDecimal? at h
  split at h
  next => contradiction
  next hpos =>
    by_cases hscale : scale < 0
    · simp only [hscale, if_true] at h
      split at h
      next => contradiction
      next => cases h; omega
    · simp only [hscale, if_false] at h
      split at h
      next => contradiction
      next => cases h; omega

@[simp] theorem wellFormed_numericType (precision scale : Int) (fallback : NumericFallback) :
    (numericType precision scale fallback).WellFormed := by
  rw [numericType]
  split
  next p s h =>
    obtain ⟨hone, hmax, hscale⟩ := leastDecimal?_eq_some h
    rw [WellFormed, toNat_ofNat (by omega), toNat_ofNat (by omega)]
    exact ⟨hone, hmax, hscale⟩
  next =>
    cases fallback with
    | double => trivial
    | varchar => exact wellFormed_cappedVarchar _ _

theorem widenedInWords_eq {precision scale : Int} (hp : FitsInt32 precision)
    (hs : FitsInt32 scale) :
    widenedInWords precision scale =
      some (if scale < 0 then (precision - scale, 0) else (max precision scale, scale)) := by
  unfold FitsInt32 at hp hs
  rw [widenedInWords]
  by_cases hscale : scale < 0
  · rw [if_pos hscale, if_pos hscale, Word.keep?_int64 (by omega)]
    rfl
  · rw [if_neg hscale, if_neg hscale]

theorem leastDecimalInWords_eq {precision scale : Int} (hp : FitsInt32 precision)
    (hs : FitsInt32 scale) :
    leastDecimalInWords precision scale = some (leastDecimal? precision scale) := by
  have hmax : maxDecimalPrecision = 36 := rfl
  rw [leastDecimalInWords, widenedInWords_eq hp hs, leastDecimal?]
  by_cases hpos : precision ≤ 0
  · rw [if_pos hpos, if_pos hpos]
  · rw [if_neg hpos, if_neg hpos]
    -- What is cast is neither negative nor above 36 by then.
    generalize hw : (if scale < 0 then (precision - scale, 0) else (max precision scale, scale)) = w
    obtain ⟨p, s⟩ := w
    have hbounds : 0 ≤ s ∧ s ≤ p := by
      split at hw <;> cases hw <;> omega
    by_cases hwide : (maxDecimalPrecision : Int) < p
    · simp [hwide]
    · simp [hwide, Word.keep?_uint32 (n := p) (by omega), Word.keep?_uint32 (n := s) (by omega)]

theorem fallbackInWords_eq {precision : Int} (hp : FitsInt32 precision)
    (fallback : NumericFallback) :
    fallbackInWords precision fallback = some (fallbackType precision fallback) := by
  unfold FitsInt32 at hp
  cases fallback with
  | double => rfl
  | varchar =>
    by_cases hpos : 0 < precision
    · simp [fallbackInWords, fallbackType, hpos, Word.keep?_int64 (n := precision + 2) (by omega)]
    · simp [fallbackInWords, fallbackType, hpos]

theorem numericInWords_eq {precision scale : Int} (hp : FitsInt32 precision)
    (hs : FitsInt32 scale) (fallback : NumericFallback) :
    numericInWords precision scale fallback = some (numericType precision scale fallback) := by
  rw [numericInWords, numericType, leastDecimalInWords_eq hp hs]
  cases leastDecimal? precision scale with
  | none => exact fallbackInWords_eq hp fallback
  | some d => rfl

/-! ## the common mapping -/

/-- The type of an integer column, computed in words. -/
def integralInWords (size width : Int) (fallback : NumericFallback) : Option CanonicalType :=
  numericInWords (if 0 < size then size else width) 0 fallback

/-- The type of a column by its code alone, computed in words. -/
def commonTypeInWords (r : RemoteType) (fallback : NumericFallback) : Option CanonicalType :=
  match integralWidth? r.typeCode with
  | some width => integralInWords r.size.toInt width fallback
  | none =>
    if r.typeCode ∈ [TypeCode.decimal, TypeCode.numeric] then
      numericInWords r.size.toInt r.scale.toInt fallback
    else if r.typeCode ∈ [TypeCode.real, TypeCode.float, TypeCode.double] then some .double
    else if r.typeCode ∈ [TypeCode.char, TypeCode.nchar] then
      charInWords r.size.toInt .utf8
    else if r.typeCode ∈ [TypeCode.varchar, TypeCode.nvarchar, TypeCode.longvarchar,
        TypeCode.longnvarchar, TypeCode.clob, TypeCode.nclob] then
      varcharInWords r.size.toInt .utf8
    else if r.typeCode = TypeCode.date then some .date
    else if r.typeCode = TypeCode.timestamp then some (.timestamp false)
    else if r.typeCode = TypeCode.timestampWithTimezone then some (.timestamp true)
    else if r.typeCode ∈ [TypeCode.time, TypeCode.timeWithTimezone] then
      varcharInWords timeTextSize .utf8
    else if r.typeCode = TypeCode.boolean then some .boolean
    else if r.typeCode = TypeCode.bit ∧ r.size.toInt ≤ 1 then some .boolean
    else some .unsupported

theorem fitsInt32_of_integralWidth? {code : Int32} {width : Int}
    (h : integralWidth? code = some width) : FitsInt32 width := by
  unfold integralWidth? at h
  unfold FitsInt32
  split_ifs at h <;> cases h <;> decide

theorem commonTypeInWords_eq (r : RemoteType) (fallback : NumericFallback) :
    commonTypeInWords r fallback = some (commonType r fallback) := by
  have hsize := fitsInt32_toInt r.size
  have hscale := fitsInt32_toInt r.scale
  unfold commonTypeInWords commonType
  cases hwidth : integralWidth? r.typeCode with
  | some width =>
    have hprecision : FitsInt32 (if 0 < r.size.toInt then r.size.toInt else width) := by
      split
      next => exact hsize
      next => exact fitsInt32_of_integralWidth? hwidth
    exact numericInWords_eq hprecision (fitsInt32_toInt 0) fallback
  | none =>
    simp only [numericInWords_eq hsize hscale, charInWords_eq, varcharInWords_eq, apply_ite some]

theorem wellFormed_commonType (r : RemoteType) (fallback : NumericFallback) :
    (commonType r fallback).WellFormed := by
  unfold commonType
  split
  next => exact wellFormed_numericType _ _ _
  next => simp only [apply_ite WellFormed, wellFormed_numericType, wellFormed_double,
      wellFormed_cappedChar, wellFormed_cappedVarchar, wellFormed_date, wellFormed_timestamp,
      wellFormed_boolean, wellFormed_unsupported, ite_self]

/-! ## the claims of the dialects -/

namespace Dialect

/-- Bytes have two characters each, counted in 64 bits. -/
def Db2.claimInWords (r : RemoteType) : Option (Option CanonicalType) := do
  let hexSize ← Word.int64.keep? (r.size.toInt * 2)
  if r.typeCode = Db2.decfloat then some (some .double)
  else if r.typeCode = TypeCode.sqlxml ∨ r.isNamed "XML" then some (some (.maxVarchar .utf8))
  else if r.typeCode = TypeCode.timestamp then
    (varcharInWords Db2.timestampTextSize .utf8).map some
  else if r.typeCode = TypeCode.binary ∧ Db2.isBitData r.typeName then
    (charInWords hexSize .ascii).map some
  else if r.typeCode = TypeCode.varbinary ∧ Db2.isBitData r.typeName then
    (varcharInWords hexSize .ascii).map some
  else some none

/-- A reported precision, cast to a word. -/
def Native.positiveInWords (value : Int32) (default : Nat) : Option UInt32 := do
  let n ← Word.uint32.keep? (if 0 < value.toInt then value.toInt else default)
  return UInt32.ofNat n.toNat

/-- Precisions and the reference system of a geometry are cast, and hash values counted. -/
def Native.claimInWords (r : RemoteType) : Option (Option CanonicalType) :=
  let name := r.upperName
  if Text.beginsWith name "INTERVAL YEAR" then do
    let precision ← Native.positiveInWords r.size 2
    return some (.intervalYearToMonth precision)
  else if Text.beginsWith name "INTERVAL DAY" then do
    let precision ← Native.positiveInWords r.size 2
    let fraction ← Native.positiveInWords r.scale 3
    return some (.intervalDayToSecond precision fraction)
  else if Text.beginsWith name "GEOMETRY" then do
    let srid ← Word.uint32.keep? (max r.scale.toInt 0)
    return some (.geometry (UInt32.ofNat srid.toNat))
  else if name == "TIMESTAMP WITH LOCAL TIME ZONE" then some (some (.timestamp true))
  else if name == "HASHTYPE" then do
    let hexSize ← Word.int64.keep? (r.size.toInt * 2)
    (charInWords hexSize .ascii).map some
  else some none

/-- The type of a number under an override; it is fitted once to decide and once for its type. -/
def Oracle.numberInWords (override : Option DecimalOverride) (precision scale : Int) :
    Option CanonicalType := do
  let representable ← if scale = Oracle.unspecifiedScale then some false
    else (leastDecimalInWords precision scale).map (·.isSome)
  if representable then numericInWords precision scale .varchar
  else
    match override with
    | some o => some (.cappedDecimal o.precision o.scale)
    | none =>
      if scale = Oracle.unspecifiedScale then varcharInWords numericTextSize .utf8
      else numericInWords precision scale .varchar

/-- Numbers are fitted, and bytes counted, in 64 bits. -/
def Oracle.claimInWords (override : Option DecimalOverride) (r : RemoteType) :
    Option (Option CanonicalType) :=
  if r.typeCode ∈ [TypeCode.numeric, TypeCode.decimal] then
    if r.isNamed "FLOAT" then some (some .double)
    else (Oracle.numberInWords override r.size.toInt r.scale.toInt).map some
  else if r.typeCode ∈ [Oracle.binaryFloat, Oracle.binaryDouble] then some (some .double)
  else if r.typeCode ∈ [Oracle.timestampWithZone, Oracle.intervalYearMonth,
      Oracle.intervalDaySecond] then
    (varcharInWords timeTextSize .utf8).map some
  else if r.typeCode = Oracle.timestampWithLocalZone then some (some (.timestamp true))
  else if r.typeCode = TypeCode.rowid then (varcharInWords Oracle.rowidSize .ascii).map some
  else if r.isNamed "UROWID" then (varcharInWords Oracle.urowidSize .ascii).map some
  else if r.typeCode ∈ [TypeCode.binary, TypeCode.varbinary] ∧ r.isNamed "RAW" then do
    let hexSize ← Word.int64.keep? (r.size.toInt * 2)
    (varcharInWords hexSize .ascii).map some
  else if Text.endsWith r.upperName "SDO_GEOMETRY" then some (some (.geometry 0))
  else some none

/-- Bit strings have a character a bit. -/
def PostgreSql.claimInWords (r : RemoteType) : Option (Option CanonicalType) :=
  if r.typeCode = TypeCode.other ∧ PostgreSql.isTextCastable r.typeName then
    some (some (.maxVarchar .utf8))
  else if r.typeCode = TypeCode.other ∧ r.isNamed "geometry" then some (some (.geometry 0))
  else if r.typeCode = TypeCode.bit ∧ 1 < r.size.toInt then
    (varcharInWords r.size.toInt .ascii).map some
  else if r.typeCode = TypeCode.timestamp ∧ r.isNamed "timestamptz" then
    some (some (.timestamp true))
  else some none

/-- The length of a marker is cast to 64 bits. -/
def Sybase.claimInWords (r : RemoteType) : Option (Option CanonicalType) :=
  match Sybase.untransportable? r.typeName with
  | none => some none
  | some name => do
    let size ← Word.int64.keep? (Sybase.marker name).length
    (varcharInWords size .utf8).map some

/-- The claim of a dialect, computed in words.  The dialects that are not named compute nothing:
the sizes they claim are constants. -/
def claimInWords (d : Dialect) (p : Properties) (r : RemoteType) :
    Option (Option CanonicalType) :=
  match d with
  | athena => some (Athena.claimType r)
  | db2 => Db2.claimInWords r
  | generic => some none
  | hive => some (Hive.claimType r)
  | impala => some (Impala.claimType r)
  | mySql => some (MySql.claimType r)
  | native => Native.claimInWords r
  | oracle => p.numberOverride.toOption.bind fun override => Oracle.claimInWords override r
  | postgreSql => PostgreSql.claimInWords r
  | redshift => some (Redshift.claimType r)
  | sqlServer => some (SqlServer.claimType r)
  | sybase => Sybase.claimInWords r
  | teradata => some (Teradata.claimType r)

/-- The type of a remote column in a dialect, computed in words. -/
def mapTypeInWords (d : Dialect) (p : Properties) (r : RemoteType) : Option CanonicalType := do
  let t ← (d.target p).toOption
  match ← d.claimInWords p r with
  | some c => return c
  | none => commonTypeInWords r t.profile.numericFallback

section

variable (r : RemoteType)

theorem Db2.claimInWords_eq : Db2.claimInWords r = some (Db2.claimType r) := by
  rw [Db2.claimInWords, Db2.claimType, keep?_twice, Option.bind_eq_bind, Option.bind_some]
  simp only [charInWords_eq, varcharInWords_eq, Option.map_some, apply_ite some]

theorem Native.positiveInWords_eq (value : Int32) {default : Nat} (h : default < 2 ^ 32) :
    Native.positiveInWords value default = some (Native.positiveOr value default) := by
  have hvalue := value.toInt_lt
  rw [Native.positiveInWords, Native.positiveOr]
  by_cases hpos : 0 < value.toInt
  · rw [if_pos hpos, if_pos hpos, Word.keep?_uint32 (by omega)]
    rfl
  · rw [if_neg hpos, if_neg hpos, Word.keep?_uint32 (by omega)]
    rfl

theorem Native.claimInWords_eq : Native.claimInWords r = some (Native.claimType r) := by
  have hscale := r.scale.toInt_lt
  have hsrid : Word.uint32.keep? (max r.scale.toInt 0) = some (max r.scale.toInt 0) :=
    Word.keep?_uint32 (by omega)
  have hnat : (max r.scale.toInt 0).toNat = r.scale.toInt.toNat := by omega
  simp [Native.claimInWords, Native.claimType, Native.positiveInWords_eq, hsrid, hnat,
    keep?_twice, apply_ite some]

theorem Oracle.numberInWords_eq (override : Option DecimalOverride) {precision scale : Int}
    (hp : FitsInt32 precision) (hs : FitsInt32 scale) :
    Oracle.numberInWords override precision scale =
      some (Oracle.numberType override precision scale) := by
  unfold Oracle.numberInWords Oracle.numberType
  rw [leastDecimalInWords_eq hp hs]
  by_cases hscale : scale = Oracle.unspecifiedScale
  · cases override <;> simp [hscale]
  · cases hfits : (leastDecimal? precision scale).isSome <;> cases override <;>
      simp [hscale, hfits, numericInWords_eq hp hs]

theorem Oracle.claimInWords_eq (override : Option DecimalOverride) :
    Oracle.claimInWords override r = some (Oracle.claimType override r) := by
  have hnumber :=
    Oracle.numberInWords_eq override (fitsInt32_toInt r.size) (fitsInt32_toInt r.scale)
  simp only [Oracle.claimInWords, Oracle.claimType, hnumber, keep?_twice, varcharInWords_eq,
    Option.map_some, Option.bind_eq_bind, Option.bind_some, apply_ite some]

theorem PostgreSql.claimInWords_eq :
    PostgreSql.claimInWords r = some (PostgreSql.claimType r) := by
  rw [PostgreSql.claimInWords, PostgreSql.claimType]
  simp only [varcharInWords_eq, Option.map_some, apply_ite some]

/-- The markers are those of four names. -/
theorem Sybase.length_marker {s name : String} (h : Sybase.untransportable? s = some name) :
    (Sybase.marker name).length ≤ 23 := by
  have hmarkers : ∀ n ∈ ["image", "binary", "varbinary", "timestamp"],
      (Sybase.marker n).length ≤ 23 := by decide +kernel
  exact hmarkers name (List.mem_of_find?_eq_some h)

theorem Sybase.claimInWords_eq : Sybase.claimInWords r = some (Sybase.claimType r) := by
  rw [Sybase.claimInWords, Sybase.claimType]
  cases hname : Sybase.untransportable? r.typeName with
  | none => rfl
  | some name =>
    have hmarker := Sybase.length_marker hname
    simp [Word.keep?_int64 (n := ((Sybase.marker name).length : Int)) (by omega)]

/-- No step of a claim leaves its word. -/
theorem claimInWords_eq {d : Dialect} {p : Properties} {t : Target} (ht : d.target p = .ok t) :
    d.claimInWords p r = some (t.claimType r) := by
  cases d with
  | generic =>
    obtain ⟨_, _, _, _, _, _, rfl⟩ := Generic.exists_of_target ht
    rfl
  | oracle =>
    obtain ⟨override, hoverride, rfl⟩ := map_eq_ok.1 ht
    simp only [claimInWords, hoverride]
    exact Oracle.claimInWords_eq r override
  | db2 => cases ht; exact Db2.claimInWords_eq r
  | native => cases ht; exact Native.claimInWords_eq r
  | postgreSql => cases ht; exact PostgreSql.claimInWords_eq r
  | sybase => cases ht; exact Sybase.claimInWords_eq r
  | athena | hive | impala | mySql | redshift | sqlServer | teradata => cases ht; rfl

end

/-! ## the types that are claimed -/

section

variable (r : RemoteType)

/-- What a claim comes to: no type, or a well-formed one. -/
def ClaimsWellFormed (claim : Option CanonicalType) : Prop :=
  ∀ c ∈ claim, c.WellFormed

@[simp] theorem claimsWellFormed_none : ClaimsWellFormed none := by
  simp [ClaimsWellFormed]

@[simp] theorem claimsWellFormed_some {c : CanonicalType} :
    ClaimsWellFormed (some c) ↔ c.WellFormed := by
  simp [ClaimsWellFormed]

/-- A precision is positive when its default is. -/
theorem Native.one_le_positiveOr (value : Int32) (default : Nat) (hone : 1 ≤ default)
    (hword : default < 2 ^ 32) : 1 ≤ (Native.positiveOr value default).toNat := by
  have hvalue := value.toInt_lt
  rw [Native.positiveOr]
  by_cases hpos : 0 < value.toInt
  · rw [if_pos hpos, UInt32.toNat_ofNat_of_lt' (by rw [UInt32.size]; omega)]
    omega
  · rw [if_neg hpos, UInt32.toNat_ofNat_of_lt' hword]
    exact hone

theorem Native.wellFormed_claimType : ClaimsWellFormed (Native.claimType r) := by
  have hsize := Native.one_le_positiveOr r.size 2 (by decide) (by decide)
  have hfraction := Native.one_le_positiveOr r.scale 3 (by decide) (by decide)
  have hyears : (intervalYearToMonth (Native.positiveOr r.size 2)).WellFormed := hsize
  have hdays : (intervalDayToSecond (Native.positiveOr r.size 2)
    (Native.positiveOr r.scale 3)).WellFormed := ⟨hsize, hfraction⟩
  simp [Native.claimType, apply_ite ClaimsWellFormed, hyears, hdays]

theorem Oracle.wellFormed_numberType (override : Option DecimalOverride) (precision scale : Int) :
    (Oracle.numberType override precision scale).WellFormed := by
  unfold Oracle.numberType
  cases override <;> simp [apply_ite WellFormed]

theorem Oracle.wellFormed_claimType (override : Option DecimalOverride) :
    ClaimsWellFormed (Oracle.claimType override r) := by
  simp [Oracle.claimType, apply_ite ClaimsWellFormed, apply_ite WellFormed,
    Oracle.wellFormed_numberType]

theorem Sybase.wellFormed_claimType : ClaimsWellFormed (Sybase.claimType r) := by
  unfold Sybase.claimType
  cases Sybase.untransportable? r.typeName <;> simp

theorem Teradata.wellFormed_claimType : ClaimsWellFormed (Teradata.claimType r) := by
  unfold Teradata.claimType
  cases Teradata.textSize? r.typeName <;> simp [apply_ite ClaimsWellFormed]

/-- What a dialect claims is well formed. -/
theorem wellFormed_of_claimType {d : Dialect} {p : Properties} {t : Target}
    (ht : d.target p = .ok t) : ClaimsWellFormed (t.claimType r) := by
  cases d with
  | generic =>
    obtain ⟨_, _, _, _, _, _, rfl⟩ := Generic.exists_of_target ht
    exact claimsWellFormed_none
  | oracle =>
    obtain ⟨override, rfl⟩ := Oracle.exists_of_target ht
    exact Oracle.wellFormed_claimType r override
  | native => cases ht; exact Native.wellFormed_claimType r
  | sybase => cases ht; exact Sybase.wellFormed_claimType r
  | teradata => cases ht; exact Teradata.wellFormed_claimType r
  | athena | db2 | hive | impala | mySql | postgreSql | redshift | sqlServer =>
    cases ht
    simp [apply_ite ClaimsWellFormed, Athena.target, Athena.claimType, Db2.target, Db2.claimType,
      Hive.target, Hive.claimType, Impala.target, Impala.claimType, MySql.target, MySql.claimType,
      PostgreSql.target, PostgreSql.claimType, Redshift.target, Redshift.claimType,
      SqlServer.target, SqlServer.claimType]

end

/-! ## the types of remote columns -/

/-- Every built dialect maps every reported type to a well-formed one, and computes it without a
number that leaves its machine word. -/
theorem wellFormed_mapType {d : Dialect} {p : Properties} {t : Target} (ht : d.target p = .ok t)
    (r : RemoteType) :
    (t.mapType r).WellFormed ∧ d.mapTypeInWords p r = some (t.mapType r) := by
  have hclaim := wellFormed_of_claimType r ht
  rw [mapTypeInWords, ht]
  simp only [Except.toOption, Option.bind_eq_bind, Option.bind_some, claimInWords_eq r ht,
    Target.mapType]
  cases hc : t.claimType r with
  | some c => exact ⟨hclaim c hc, rfl⟩
  | none => exact ⟨wellFormed_commonType r _, commonTypeInWords_eq r _⟩

/-- The extremes of both reported numbers under an override, which is what they are mapped to. -/
theorem wellFormed_mapType_extremes :
    oracle.target { castNumberToDecimal := some "10,2" } =
        .ok (Oracle.targetOf (some ⟨10, 2⟩)) ∧
      (CanonicalType.decimal 10 2).WellFormed ∧
      oracle.mapTypeInWords { castNumberToDecimal := some "10,2" }
        ⟨TypeCode.numeric, Int32.maxValue, Int32.minValue, "NUMBER"⟩ = some (.decimal 10 2) := by
  have hread : ({ castNumberToDecimal := some "10,2" } : Properties).numberOverride =
      .ok (some ⟨10, 2⟩) := by decide +kernel
  have ht : oracle.target { castNumberToDecimal := some "10,2" } =
      .ok (Oracle.targetOf (some ⟨10, 2⟩)) :=
    congrArg (Except.map Oracle.targetOf) hread
  have hmap : (Oracle.targetOf (some ⟨10, 2⟩)).mapType
      ⟨TypeCode.numeric, Int32.maxValue, Int32.minValue, "NUMBER"⟩ = .decimal 10 2 := by
    decide +kernel
  have hgood := wellFormed_mapType ht ⟨TypeCode.numeric, Int32.maxValue, Int32.minValue, "NUMBER"⟩
  rw [hmap] at hgood
  exact ⟨ht, hgood⟩

end Dialect

end RemoteQuery
