import RemoteQuery.Proofs.MappedTypes
import Mathlib

/-!
# RemoteQuery.Proofs.NumberTransport

The number columns of Oracle travel in the type they are mapped to.

The type of a column is decided from the precision and the scale that the driver
reports.  Whether the column is wrapped when it is selected is decided later, from
the type alone and the configured decimal.  The two decisions agree.

* `DecimalOverride.withinLimits_of_parse` — a configured decimal is one of the type
  system, so it reaches the column unchanged;
* `Dialect.Oracle.numberTransported_numberType` — the type and the wrap of a number;
* `Dialect.Oracle.numberTransported_mapType` — every number column is selected in
  its type.
-/

namespace RemoteQuery

open CanonicalType

/-! ## names -/

/-- Words that differ in case alone are the same in capitals. -/
theorem Text.toUpper_eq_of_sameWord {a b : String} (h : Text.sameWord a b = true) :
    a.toUpper = b.toUpper := by
  have hupper (s : String) : s.toLower.toUpper = s.toUpper := by
    apply String.toList_inj.1
    simp [String.toUpper, String.toLower, String.toList_map]
  have hlower : a.toLower = b.toLower := by simpa [Text.sameWord] using h
  rw [← hupper a, hlower, hupper b]

/-! ## decimals -/

/-- The decimal type of a precision and a scale. -/
def CanonicalType.IsDecimal (type : CanonicalType) (precision scale : Nat) : Prop :=
  ∃ p s : UInt32, type = .decimal p s ∧ p.toNat = precision ∧ s.toNat = scale

theorem isDecimal_ofNat {p s : Nat} (hp : p ≤ 36) (hs : s ≤ p) :
    (CanonicalType.decimal (UInt32.ofNat p) (UInt32.ofNat s)).IsDecimal p s :=
  ⟨_, _, rfl, toNat_ofNat (by omega), toNat_ofNat (by omega)⟩

/-- A decimal within the limits of the type system is not changed by them. -/
theorem isDecimal_cappedDecimal {p s : Nat} (hone : 1 ≤ p) (hp : p ≤ 36) (hs : s ≤ p) :
    (cappedDecimal p s).IsDecimal p s := by
  have hcap : min (max p 1) maxDecimalPrecision = p := by
    rw [maxDecimalPrecision]
    omega
  rw [cappedDecimal, hcap, min_eq_left hs]
  exact isDecimal_ofNat hp hs

/-- A configured decimal that is one of the type system. -/
def DecimalOverride.WithinLimits (o : DecimalOverride) : Prop :=
  1 ≤ o.precision ∧ o.precision ≤ 36 ∧ o.scale ≤ o.precision

theorem DecimalOverride.withinLimits_of_parse {raw : String} {o : DecimalOverride}
    (h : DecimalOverride.parse raw = .ok o) : o.WithinLimits := by
  have hmax : maxDecimalPrecision = 36 := rfl
  rw [DecimalOverride.parse] at h
  split at h
  next => cases h
  next =>
    split at h
    next => cases h
    next => cases h
    next p s _ _ =>
      by_cases hrange : p = 0 ∨ maxDecimalPrecision < p
      · rw [if_pos hrange] at h
        cases h
      · by_cases hscale : p < s
        · rw [if_neg hrange, if_pos hscale] at h
          cases h
        · rw [if_neg hrange, if_neg hscale] at h
          cases h
          show 1 ≤ p ∧ p ≤ 36 ∧ s ≤ p
          omega

theorem Properties.withinLimits_of_numberOverride {props : Properties} {o : DecimalOverride}
    (h : props.numberOverride = .ok (some o)) : o.WithinLimits := by
  rw [Properties.numberOverride] at h
  split at h
  next => cases h
  next raw _ =>
    obtain ⟨o', hparse, ho⟩ := map_eq_ok.1 (mapError_eq_ok.1 h)
    cases ho
    exact DecimalOverride.withinLimits_of_parse hparse

/-! ## number columns -/

namespace Dialect.Oracle

/-- A text as a decimal. -/
def decimalCast (sql : String) (precision scale : Nat) : String :=
  "CAST(" ++ sql ++ " AS DECIMAL(" ++ toString precision ++ ", " ++ toString scale ++ "))"

/-- The type of a number column and how it is wrapped.  Without a decimal that holds its values, or
a precision at all, it is a text, or the configured decimal; else it is the least decimal, which is
left as it is unless it is the configured one. -/
def NumberTransported (override : Option DecimalOverride) (precision scale : Int) (sql : String)
    (type : CanonicalType) (form : Option String) : Prop :=
  if scale = -127 ∨ leastDecimal? precision scale = none then
    match override with
    | none => (∃ size charset, type = .varchar size charset) ∧
        form = some ("TO_CHAR(" ++ sql ++ ")")
    | some o => type.IsDecimal o.precision o.scale ∧
        form = some (decimalCast sql o.precision o.scale)
  else
    ∃ p s, leastDecimal? precision scale = some (p, s) ∧ type.IsDecimal p s ∧
      form = if override = some ⟨p, s⟩ then some (decimalCast sql p s) else none

section

variable {override : Option DecimalOverride} {sql : String}

theorem transportNumber_varchar (size : UInt32) (charset : Charset) :
    transportNumber override (.varchar size charset) sql = some ("TO_CHAR(" ++ sql ++ ")") := by
  simp [transportNumber, Calls.call]

theorem transportNumber_decimal {type : CanonicalType} {p s : Nat} (h : type.IsDecimal p s) :
    transportNumber override type sql =
      if override = some ⟨p, s⟩ then some (decimalCast sql p s) else none := by
  obtain ⟨p, s, rfl, rfl, rfl⟩ := h
  have hwords : " AS " ++ "DECIMAL(" = " AS DECIMAL(" := by decide
  have hclosing : ")" ++ ")" = "))" := by decide
  simp only [transportNumber, decimalCast, Calls.cast, ← hwords, ← hclosing, String.append_assoc]

section

variable {precision scale : Int}

theorem numberType_of_fits {p s : Nat} (hscale : scale ≠ -127)
    (hfits : leastDecimal? precision scale = some (p, s)) :
    numberType override precision scale = .decimal (UInt32.ofNat p) (UInt32.ofNat s) := by
  have hboth : scale ≠ unspecifiedScale ∧ (leastDecimal? precision scale).isSome := by
    rw [hfits]
    exact ⟨hscale, rfl⟩
  unfold numberType
  rw [if_pos hboth, numericType, hfits]

theorem not_fits (hnone : scale = -127 ∨ leastDecimal? precision scale = none) :
    ¬(scale ≠ unspecifiedScale ∧ (leastDecimal? precision scale).isSome) := by
  rintro ⟨hscale, hsome⟩
  obtain h | h := hnone
  · exact hscale h
  · rw [h] at hsome
    cases hsome

theorem numberType_override (hnone : scale = -127 ∨ leastDecimal? precision scale = none)
    (o : DecimalOverride) :
    numberType (some o) precision scale = .cappedDecimal o.precision o.scale := by
  rw [numberType, if_neg (not_fits hnone)]

theorem numberType_text (hnone : scale = -127 ∨ leastDecimal? precision scale = none) :
    ∃ size, numberType none precision scale = .varchar size .utf8 := by
  have htext (size : Int) : ∃ n, cappedVarchar size .utf8 = .varchar n .utf8 := by
    obtain ⟨n, htype, -⟩ := exists_cappedVarchar size .utf8
    exact ⟨n, htype⟩
  rw [numberType, if_neg (not_fits hnone)]
  by_cases hscale : scale = unspecifiedScale
  · simp only [if_pos hscale]
    exact htext _
  · have hwide := hnone.resolve_left hscale
    simp only [if_neg hscale, numericType, hwide, fallbackType]
    exact htext _

end

/-- The wrap chosen from the type is the one the reported numbers ask for. -/
theorem numberTransported_numberType (precision scale : Int) (sql : String)
    (hlimits : ∀ o ∈ override, o.WithinLimits) :
    NumberTransported override precision scale sql (numberType override precision scale)
      (transportNumber override (numberType override precision scale) sql) := by
  unfold NumberTransported
  by_cases hnone : scale = -127 ∨ leastDecimal? precision scale = none
  · rw [if_pos hnone]
    cases override with
    | none =>
      obtain ⟨size, htype⟩ := numberType_text hnone
      rw [htype]
      exact ⟨⟨size, .utf8, rfl⟩, transportNumber_varchar size .utf8⟩
    | some o =>
      obtain ⟨hone, hmax, hscale⟩ := hlimits o rfl
      have htype := isDecimal_cappedDecimal hone hmax hscale
      rw [numberType_override hnone, transportNumber_decimal htype, if_pos rfl]
      exact ⟨htype, rfl⟩
  · rw [if_neg hnone]
    obtain ⟨hscale, hfits⟩ := not_or.1 hnone
    obtain ⟨⟨p, s⟩, hleast⟩ := Option.ne_none_iff_exists'.1 hfits
    obtain ⟨-, hmax, hle⟩ := leastDecimal?_eq_some hleast
    have htype := isDecimal_ofNat hmax hle
    rw [numberType_of_fits hscale hleast, transportNumber_decimal htype]
    exact ⟨p, s, hleast, htype, rfl⟩

/-- A number column is a text or a decimal, so it is transported and keeps its digits. -/
theorem NumberTransported.ne_double_unsupported {precision scale : Int} {type : CanonicalType}
    {form : Option String} (h : NumberTransported override precision scale sql type form) :
    type ≠ .double ∧ type ≠ .unsupported := by
  have hkind : (∃ size charset, type = .varchar size charset) ∨ ∃ p s, type.IsDecimal p s := by
    unfold NumberTransported at h
    by_cases hnone : scale = -127 ∨ leastDecimal? precision scale = none
    · rw [if_pos hnone] at h
      cases override with
      | none => exact .inl h.1
      | some o => exact .inr ⟨_, _, h.1⟩
    · rw [if_neg hnone] at h
      obtain ⟨p, s, -, htype, -⟩ := h
      exact .inr ⟨p, s, htype⟩
  obtain ⟨_, _, rfl⟩ | ⟨_, _, _, _, rfl, -⟩ := hkind
  · simp
  · simp

/-- A number column is claimed by its precision and scale. -/
theorem claimType_number {r : RemoteType}
    (hcode : r.typeCode = TypeCode.numeric ∨ r.typeCode = TypeCode.decimal)
    (hname : r.isNamed "NUMBER" = true) :
    claimType override r = some (numberType override r.size.toInt r.scale.toInt) := by
  have hfloat : r.isNamed "FLOAT" = false := by
    simp only [RemoteType.isNamed, Text.sameWord, beq_iff_eq] at hname
    rw [RemoteType.isNamed, Text.sameWord, hname]
    decide +kernel
  rw [claimType, if_pos (by simpa using hcode), hfloat]
  simp

/-- A column with the native name of a number is wrapped as its type asks for. -/
theorem transportForm_number {c : ColumnMetadata} (hname : c.isNative "NUMBER" = true) :
    transportForm override c sql = transportNumber override c.dataType sql := by
  have hupper : c.nativeUpper = "NUMBER" := by
    rw [ColumnMetadata.nativeUpper, Text.toUpper_eq_of_sameWord hname]
    decide +kernel
  rw [transportForm, hupper]
  rfl

end

/-- **Number columns are selected in the type they are mapped to**: in every built Oracle target the
type of a number column and the wrap of the column follow from one case distinction on what the
driver reports, and the type is a text or a decimal of the type system. -/
theorem numberTransported_mapType {props : Properties} {t : Target} {r : RemoteType}
    (ht : Oracle.target props = .ok t)
    (hcode : r.typeCode = TypeCode.numeric ∨ r.typeCode = TypeCode.decimal)
    (hname : r.isNamed "NUMBER" = true) (column sql : String) :
    ∃ override, props.numberOverride = .ok override ∧
      t.claimType r = some (t.mapType r) ∧
      NumberTransported override r.size.toInt r.scale.toInt sql (t.mapType r)
        (t.transportForm ⟨column, t.mapType r, r.typeName⟩ sql) ∧
      t.mapType r ≠ .double ∧ t.mapType r ≠ .unsupported ∧
      ∀ p s, t.mapType r = .decimal p s → 1 ≤ p.toNat ∧ p.toNat ≤ 36 ∧ s.toNat ≤ p.toNat := by
  obtain ⟨override, hoverride, rfl⟩ := map_eq_ok.1 ht
  have hlimits : ∀ o ∈ override, o.WithinLimits := by
    rintro o rfl
    exact Properties.withinLimits_of_numberOverride hoverride
  have hclaim : (targetOf override).claimType r =
      some (numberType override r.size.toInt r.scale.toInt) := claimType_number hcode hname
  have hmap : (targetOf override).mapType r = numberType override r.size.toInt r.scale.toInt := by
    rw [Target.mapType, hclaim, Option.getD_some]
  have hform : (targetOf override).transportForm
      ⟨column, numberType override r.size.toInt r.scale.toInt, r.typeName⟩ sql =
        transportNumber override (numberType override r.size.toInt r.scale.toInt) sql :=
    transportForm_number hname
  have htransported := numberTransported_numberType r.size.toInt r.scale.toInt sql hlimits
  obtain ⟨hdouble, hunsupported⟩ := htransported.ne_double_unsupported
  have hwell := wellFormed_numberType override r.size.toInt r.scale.toInt
  rw [hmap, hform]
  refine ⟨override, hoverride, hclaim, htransported, hdouble, hunsupported, ?_⟩
  intro p s h
  rw [h] at hwell
  exact hwell

/-- More digits than a decimal holds are forced into the configured one, and so is the column. -/
theorem numberTransported_oversized :
    Oracle.target { castNumberToDecimal := some " 20 , +4" } = .ok (targetOf (some ⟨20, 4⟩)) ∧
      NumberTransported (some ⟨20, 4⟩) 38 10 "T.N" (.decimal 20 4)
        (some "CAST(T.N AS DECIMAL(20, 4))") := by
  have hread : ({ castNumberToDecimal := some " 20 , +4" } : Properties).numberOverride =
      .ok (some ⟨20, 4⟩) := by decide +kernel
  have ht : Oracle.target { castNumberToDecimal := some " 20 , +4" } =
      .ok (targetOf (some ⟨20, 4⟩)) := congrArg (Except.map targetOf) hread
  have hmap : (targetOf (some ⟨20, 4⟩)).mapType ⟨TypeCode.decimal, 38, 10, "Number"⟩ =
      .decimal 20 4 := by decide +kernel
  have hform : (targetOf (some ⟨20, 4⟩)).transportForm ⟨"N", .decimal 20 4, "Number"⟩ "T.N" =
      some "CAST(T.N AS DECIMAL(20, 4))" := by decide +kernel
  have hname : (⟨TypeCode.decimal, 38, 10, "Number"⟩ : RemoteType).isNamed "NUMBER" = true := by
    cbv
  have hnumber := numberTransported_mapType ht (.inr rfl) hname "N" "T.N"
  rw [hread, hmap, hform] at hnumber
  obtain ⟨override, hoverride, hrest⟩ := hnumber
  cases hoverride
  exact ⟨ht, hrest.2.1⟩

end Dialect.Oracle

end RemoteQuery
