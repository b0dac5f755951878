import RemoteQuery.Proofs.MappedTypes
import Mathlib.Algebra.Order.Field.Power
import Mathlib.Algebra.Order.Ring.Rat
import Mathlib.Data.Rat.Cast.Order
import Mathlib.Order.Bounds.Basic
import Mathlib.Tactic.Positivity

/-!
# RemoteQuery.Proofs.DecimalFit

The values of a number and the types that have room for them.

A number of precision `p` and scale `s` is a whole multiple of `10 ^ (-s)` with at
most `p` digits.  A driver may report a scale that is negative or beyond the
precision; the values are defined all the same, and the type they are mapped to is
judged by whether it holds them.

* `zpow_mem_decimalValues_iff` — the powers of ten among the values;
* `decimalValues_subset_iff` — which numbers hold all values of another;
* `isLeast_neededPrecision` — the digits that no decimal can do without;
* `leastDecimal?_isLeast` — the decimal of the mapping is the least that holds
  every value, and is missing only where that one has too many digits;
* `textWidth_suffices_iff` — when the text of the mapping has room for every value.
-/

namespace RemoteQuery

/-! ## values -/

/-- The values of a number of a precision and a scale. -/
def decimalValues (precision scale : ℤ) : Set ℚ :=
  {x | ∃ m : ℤ, |(m : ℚ)| < 10 ^ precision ∧ x = m * 10 ^ (-scale)}

section

variable {precision scale precision' scale' : ℤ}

/-- A power of ten that is no fraction is a whole number. -/
theorem cast_pow_toNat {i : ℤ} (h : 0 ≤ i) : (((10 : ℤ) ^ i.toNat : ℤ) : ℚ) = 10 ^ i := by
  have hi : (10 : ℚ) ^ i = 10 ^ (i.toNat : ℤ) := by rw [Int.toNat_of_nonneg h]
  rw [hi, zpow_natCast, Int.cast_pow, Int.cast_ofNat]

/-- The powers of ten among the values have one digit between the last place and the first. -/
theorem zpow_mem_decimalValues_iff {i : ℤ} :
    (10 : ℚ) ^ i ∈ decimalValues precision scale ↔ -scale ≤ i ∧ i < precision - scale := by
  have hten : (1 : ℚ) < 10 := by norm_num
  constructor
  · rintro ⟨m, hm, hx⟩
    have hpow : (m : ℚ) = 10 ^ (i + scale) := by
      rw [zpow_add₀ (by norm_num), hx, mul_assoc, ← zpow_add₀ (by norm_num), neg_add_cancel,
        zpow_zero, mul_one]
    have hdigits : i + scale < precision := by
      rw [hpow, abs_of_pos (by positivity)] at hm
      exact (zpow_lt_zpow_iff_right₀ hten).1 hm
    -- A positive whole number is at least one, and a power below that is a fraction.
    have hpos : 0 < m := by
      have hcast : (0 : ℚ) < m := by rw [hpow]; positivity
      exact_mod_cast hcast
    have hwhole : 0 ≤ i + scale := by
      have hone : (1 : ℚ) ≤ m := by exact_mod_cast hpos
      rw [hpow] at hone
      exact (one_le_zpow_iff_right₀ hten).1 hone
    omega
  · rintro ⟨hlast, hfirst⟩
    have hwhole : 0 ≤ i + scale := by omega
    refine ⟨10 ^ (i + scale).toNat, ?_, ?_⟩
    · rw [cast_pow_toNat hwhole, abs_of_pos (by positivity)]
      exact zpow_lt_zpow_right₀ hten (by omega)
    · rw [cast_pow_toNat hwhole, ← zpow_add₀ (by norm_num), add_neg_cancel_right]

/-- More places after the point and no fewer digits before it lose no value. -/
theorem decimalValues_subset (hscale : scale ≤ scale')
    (hwhole : precision - scale ≤ precision' - scale') :
    decimalValues precision scale ⊆ decimalValues precision' scale' := by
  rintro x ⟨m, hm, rfl⟩
  have hshift : 0 ≤ scale' - scale := by omega
  have hpow : (0 : ℚ) < 10 ^ (scale' - scale) := by positivity
  refine ⟨m * 10 ^ (scale' - scale).toNat, ?_, ?_⟩
  · rw [Int.cast_mul, cast_pow_toNat hshift, abs_mul, abs_of_pos hpow]
    calc |(m : ℚ)| * 10 ^ (scale' - scale)
        < 10 ^ precision * 10 ^ (scale' - scale) := mul_lt_mul_of_pos_right hm hpow
      _ = 10 ^ (precision + (scale' - scale)) := (zpow_add₀ (by norm_num) _ _).symm
      _ ≤ 10 ^ precision' := zpow_le_zpow_right₀ (by norm_num) (by omega)
  · have hplace : scale' - scale + -scale' = -scale := by omega
    rw [Int.cast_mul, cast_pow_toNat hshift, mul_assoc, ← zpow_add₀ (by norm_num), hplace]

/-- A number holds all values of another exactly when it has as many places after the point and as
many digits before it.  The powers of ten at both ends show that neither can be missing. -/
theorem decimalValues_subset_iff (hp : 0 < precision) :
    decimalValues precision scale ⊆ decimalValues precision' scale' ↔
      scale ≤ scale' ∧ precision - scale ≤ precision' - scale' := by
  constructor
  · intro h
    have hlast : (10 : ℚ) ^ (-scale) ∈ decimalValues precision scale :=
      zpow_mem_decimalValues_iff.2 (by omega)
    have hfirst : (10 : ℚ) ^ (precision - scale - 1) ∈ decimalValues precision scale :=
      zpow_mem_decimalValues_iff.2 (by omega)
    have hlast' := zpow_mem_decimalValues_iff.1 (h hlast)
    have hfirst' := zpow_mem_decimalValues_iff.1 (h hfirst)
    omega
  · rintro ⟨hscale, hwhole⟩
    exact decimalValues_subset hscale hwhole

end

/-! ## the least decimal -/

/-- A decimal of `p` digits, `s` of them after the point, that holds every value of a number. -/
def HoldsNumber (precision scale : ℤ) (p s : ℕ) : Prop :=
  s ≤ p ∧ decimalValues precision scale ⊆ decimalValues p s

/-- The digits of a number written out: a negative scale adds zeros before the point, and a scale
beyond the precision adds them after it. -/
def neededPrecision (precision scale : ℤ) : ℤ :=
  if scale < 0 then precision - scale else max precision scale

section

variable {precision scale : ℤ}

/-- The digits a number needs, with its places after the point, hold every value. -/
theorem holdsNumber_neededPrecision (hp : 0 < precision) :
    HoldsNumber precision scale (neededPrecision precision scale).toNat scale.toNat := by
  rw [HoldsNumber, decimalValues_subset_iff hp, neededPrecision]
  by_cases hscale : scale < 0
  · rw [if_pos hscale]
    omega
  · rw [if_neg hscale]
    omega

/-- No decimal that holds every value has fewer digits, or fewer of them after the point. -/
theorem neededPrecision_le_of_holdsNumber (hp : 0 < precision) {p s : ℕ}
    (h : HoldsNumber precision scale p s) :
    (neededPrecision precision scale).toNat ≤ p ∧ scale.toNat ≤ s := by
  rw [HoldsNumber, decimalValues_subset_iff hp] at h
  rw [neededPrecision]
  by_cases hscale : scale < 0
  · rw [if_pos hscale]
    omega
  · rw [if_neg hscale]
    omega

theorem isLeast_neededPrecision (hp : 0 < precision) :
    IsLeast {p | ∃ s, HoldsNumber precision scale p s} (neededPrecision precision scale).toNat := by
  constructor
  · exact ⟨scale.toNat, holdsNumber_neededPrecision hp⟩
  · rintro p ⟨s, h⟩
    exact (neededPrecision_le_of_holdsNumber hp h).1

/-- The mapping has the needed digits, if the type system does. -/
theorem leastDecimal?_eq (precision scale : ℤ) :
    leastDecimal? precision scale =
      if precision ≤ 0 ∨ 36 < neededPrecision precision scale then none
      else some ((neededPrecision precision scale).toNat, scale.toNat) := by
  have hmax : ((CanonicalType.maxDecimalPrecision : ℕ) : ℤ) = 36 := rfl
  rw [leastDecimal?, neededPrecision, hmax]
  by_cases hp : precision ≤ 0
  · rw [if_pos hp, if_pos (.inl hp)]
  · by_cases hscale : scale < 0
    · have hzero : scale.toNat = 0 := by omega
      simp [hp, hscale, hzero]
    · simp [hp, hscale]

theorem leastDecimal?_eq_none_iff :
    leastDecimal? precision scale = none ↔
      precision ≤ 0 ∨ 36 < neededPrecision precision scale := by
  rw [leastDecimal?_eq]
  split <;> simp_all

/-- What the mapping finds is the least decimal that holds every value. -/
theorem leastDecimal?_holdsNumber {p s : ℕ} (h : leastDecimal? precision scale = some (p, s)) :
    HoldsNumber precision scale p s ∧
      ∀ q t, HoldsNumber precision scale q t → p ≤ q ∧ s ≤ t := by
  rw [leastDecimal?_eq] at h
  split at h
  next => contradiction
  next hfits =>
    have hp : 0 < precision := by omega
    cases h
    exact ⟨holdsNumber_neededPrecision hp, fun _ _ => neededPrecision_le_of_holdsNumber hp⟩

end

/-- **The mapping of numbers is lossless and least**: the decimal found for a precision and a scale
is one of the type system, holds every value of such a number, and has neither more digits nor more
of them after the point than any other decimal that does; and there is none exactly when the number
has no digits or the least such decimal has more than 36. -/
theorem leastDecimal?_isLeast (precision scale : ℤ) :
    (∀ p s, leastDecimal? precision scale = some (p, s) →
      1 ≤ p ∧ p ≤ 36 ∧ HoldsNumber precision scale p s ∧
        ∀ q t, HoldsNumber precision scale q t → p ≤ q ∧ s ≤ t) ∧
    (leastDecimal? precision scale = none ↔ precision ≤ 0 ∨
      ∃ w, IsLeast {p | ∃ s, HoldsNumber precision scale p s} w ∧ 36 < w) := by
  constructor
  · intro p s h
    obtain ⟨hone, hmax, -⟩ := leastDecimal?_eq_some h
    exact ⟨hone, hmax, leastDecimal?_holdsNumber h⟩
  · rw [leastDecimal?_eq_none_iff]
    by_cases hp : precision ≤ 0
    · simp [hp]
    · have hleast : IsLeast {p | ∃ s, HoldsNumber precision scale p s} _ :=
        isLeast_neededPrecision (not_le.1 hp)
      have hwidth : 36 < neededPrecision precision scale ↔
          36 < (neededPrecision precision scale).toNat := by omega
      rw [hwidth]
      constructor
      · rintro (h | h)
        · exact .inl h
        · exact .inr ⟨_, hleast, h⟩
      · rintro (h | ⟨w, hw, hlarge⟩)
        · exact .inl h
        · rw [hleast.unique hw]
          exact .inr hlarge

/-- Five digits before two zeros fit into seven, no fewer; 35 of them into no decimal. -/
theorem leastDecimal?_negative_scale :
    leastDecimal? 5 (-2) = some (7, 0) ∧ HoldsNumber 5 (-2) 7 0 ∧
      (∀ q t, HoldsNumber 5 (-2) q t → 7 ≤ q ∧ 0 ≤ t) ∧
      ∃ w, IsLeast {p | ∃ s, HoldsNumber 35 (-2) p s} w ∧ 36 < w := by
  have hsome : leastDecimal? 5 (-2) = some (7, 0) := by decide
  have hnone : leastDecimal? 35 (-2) = none := by decide
  obtain ⟨-, -, hholds, hleast⟩ := (leastDecimal?_isLeast 5 (-2)).1 7 0 hsome
  have hwide := ((leastDecimal?_isLeast 35 (-2)).2.1 hnone).resolve_left (by decide)
  exact ⟨hsome, hholds, hleast, hwide⟩

/-! ## the width of a text -/

/-- **The text of a number that no decimal holds** has as many characters as the precision has
digits, two more for sign and point, up to the limit of the type system.  That is room for every
value exactly when the scale lies between zero and the precision, or the limit is reached: the zeros
that other scales add are not counted. -/
theorem textWidth_suffices_iff {precision scale : ℤ} (hp : 0 < precision)
    (hnone : leastDecimal? precision scale = none) :
    ∃ size : UInt32, numericType precision scale .varchar = .varchar size .utf8 ∧
      (size.toNat : ℤ) = min 2000000 (precision + 2) ∧
      (min 2000000 (neededPrecision precision scale + 2) ≤ (size.toNat : ℤ) ↔
        (0 ≤ scale ∧ scale ≤ precision) ∨ 2000000 ≤ precision + 2) := by
  obtain ⟨size, htype, hsize⟩ := CanonicalType.exists_cappedVarchar (precision + 2) .utf8
  rw [if_neg (by omega)] at hsize
  have hfallback : numericType precision scale .varchar = .varchar size .utf8 := by
    rw [numericType, hnone, fallbackType, if_pos hp, htype]
  refine ⟨size, hfallback, hsize, ?_⟩
  rw [hsize, neededPrecision]
  by_cases hscale : scale < 0
  · rw [if_pos hscale]
    omega
  · rw [if_neg hscale]
    omega

/-- A number of 35 digits before two zeros needs 39 characters and gets 37. -/
theorem textWidth_negative_scale :
    numericType 35 (-2) .varchar = .varchar 37 .utf8 ∧ neededPrecision 35 (-2) = 37 ∧
      ∃ size : UInt32, numericType 35 (-2) .varchar = .varchar size .utf8 ∧
        ¬min 2000000 (neededPrecision 35 (-2) + 2) ≤ (size.toNat : ℤ) := by
  have hnone : leastDecimal? 35 (-2) = none := by decide
  obtain ⟨size, htype, -, hroom⟩ := textWidth_suffices_iff (by decide) hnone
  refine ⟨by decide, by decide, size, htype, ?_⟩
  rw [hroom]
  decide

end RemoteQuery
