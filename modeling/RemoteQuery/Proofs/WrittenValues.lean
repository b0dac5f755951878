import RemoteQuery.Proofs.Numerals
import RemoteQuery.Proofs.Reader
import Mathlib.Algebra.Group.Nat.Defs

/-!
# RemoteQuery.Proofs.WrittenValues

Decimals, days and points in time are read back from their exact texts.

* `Decimal.ofText?_text` — every digit of a decimal is read back, and so is its
  sign, except that zero loses it;
* `Date.ofText?_text`, `Timestamp.ofText?_text` — days and points in time are
  read back as they are.

The readers of the parts take a part off the front of a text; a part that ends
in a digit is followed by a character that is none (`EndsDigits`).
-/

namespace RemoteQuery

/-! ## padded numbers -/

namespace Text

/-- The zeros in front of a number do not count. -/
theorem ofDigitChars_padded (width n : Nat) :
    Nat.ofDigitChars 10 (padded width n).toList 0 = n := by
  rw [padded, String.toList_ofList, Nat.ofDigitChars_append, Nat.ofDigitChars_replicate_zero,
    Nat.mul_zero, Nat.ofDigitChars_ten_toDigits]

/-- A number that has at most as many digits as are asked for has exactly as many. -/
theorem length_padded_of_lt {width n : Nat} (hwidth : 0 < width) (h : n < 10 ^ width) :
    (padded width n).toList.length = width := by
  have hlen := (Nat.length_toDigits_le_iff (by decide) hwidth).2 h
  rw [padded, String.toList_ofList, List.length_append, List.length_replicate]
  omega

theorem padded_ne_nil (width n : Nat) : (padded width n).toList ≠ [] := by
  rw [padded, String.toList_ofList]
  exact List.append_ne_nil_of_right_ne_nil _ Nat.toDigits_ne_nil

theorem digits?_padded (width n : Nat) : digits? (padded width n).toList = some n := by
  have hall : (padded width n).toList.all Char.isDigit = true :=
    List.all_eq_true.2 fun c hc => isDigit_of_mem_padded hc
  rw [digits?, if_pos ⟨padded_ne_nil width n, hall⟩, ofDigitChars_padded]

/-- A text that does not go on with a digit. -/
def EndsDigits (rest : List Char) : Prop :=
  rest.head?.all (fun c => !c.isDigit) = true

theorem EndsDigits.take {rest : List Char} (h : EndsDigits rest) (n : Nat) :
    EndsDigits (rest.take n) := by
  unfold EndsDigits at h ⊢
  cases n with
  | zero => rfl
  | succ n => cases rest with
    | nil => rfl
    | cons c cs => exact h

/-- A padded number is taken off the front of a text. -/
theorem takeNumber?_padded {width n most : Nat} {rest : List Char}
    (hmost : (padded width n).toList.length ≤ most) (hrest : EndsDigits rest) :
    takeNumber? most ((padded width n).toList ++ rest) = some (n, rest) := by
  have hspan := Reader.span_append
    (fun c (hc : c ∈ (padded width n).toList) => isDigit_of_mem_padded hc)
    (hrest.take (most - (padded width n).toList.length))
  rw [List.span_eq_takeWhile_dropWhile, Prod.mk.injEq] at hspan
  rw [takeNumber?, List.take_append, List.take_of_length_le hmost, hspan.1, digits?_padded]
  simp

theorem isBlank_of_isDigit {c : Char} (h : c.isDigit = true) : isBlank c = false := by
  have hzero : '0'.toNat = 48 := rfl
  have hnine : '9'.toNat = 57 := rfl
  rw [Char.isDigit_iff_toNat, hzero, hnine] at h
  rw [isBlank, List.any_eq_false]
  intro r hr
  simp only [blankRanges, List.mem_cons, List.not_mem_nil, or_false] at hr
  obtain rfl | rfl | rfl | rfl | rfl | rfl | rfl | rfl | rfl | rfl := hr <;> simp <;> omega

/-- A padded number starts with a digit. -/
theorem padded_append_ne {width n : Nat} {c : Char} {rest tail : List Char}
    (h : c.isDigit = false) : (padded width n).toList ++ rest ≠ c :: tail := by
  obtain ⟨d, ds, hcons⟩ := List.exists_cons_of_ne_nil (padded_ne_nil width n)
  have hd : d.isDigit = true := isDigit_of_mem_padded (hcons ▸ List.mem_cons_self)
  rw [hcons, List.cons_append]
  intro he
  rw [(List.cons.inj he).1, h] at hd
  contradiction

/-- No blanks stand in front of a padded number. -/
theorem dropBlanks_padded (width n : Nat) (rest : List Char) :
    dropBlanks ((padded width n).toList ++ rest) = (padded width n).toList ++ rest := by
  obtain ⟨c, cs, hcons⟩ := List.exists_cons_of_ne_nil (padded_ne_nil width n)
  have hc : c.isDigit = true := isDigit_of_mem_padded (hcons ▸ List.mem_cons_self)
  rw [hcons, List.cons_append, dropBlanks,
    List.dropWhile_cons_of_neg (by simp [isBlank_of_isDigit hc])]

end Text

open Text

/-! ## decimals -/

namespace Decimal

/-- The decimal without the sign of a zero. -/
def withoutZeroSign (d : Decimal) : Decimal :=
  { d with negative := d.negative && d.magnitude != 0 }

/-- A zero that is written with a minus sign. -/
def IsNegativeZero (d : Decimal) : Prop :=
  d.negative = true ∧ d.magnitude = 0

theorem withoutZeroSign_eq_self {d : Decimal} (h : ¬d.IsNegativeZero) :
    d.withoutZeroSign = d := by
  obtain ⟨negative, magnitude, scale, hm, hs⟩ := d
  cases negative with
  | false => rfl
  | true =>
    have hne : magnitude ≠ 0 := fun h0 => h ⟨rfl, h0⟩
    simp [withoutZeroSign, hne]

/-- More digits make no smaller number. -/
theorem le_ofDigitChars (ds : List Char) (m : Nat) : m ≤ Nat.ofDigitChars 10 ds m := by
  have hpos : 0 < 10 ^ ds.length := Nat.pow_pos (by decide)
  rw [Nat.ofDigitChars_eq_ofDigitChars_zero]
  exact Nat.le_add_right_of_le (Nat.le_mul_of_pos_left m hpos)

/-- Digits before the point add to the magnitude. -/
theorem readDigits_whole {ds : List Char} (hds : ∀ c ∈ ds, c.isDigit = true) (hne : ds ≠ [])
    {seen : Bool} {m : Nat} (hbound : Nat.ofDigitChars 10 ds m < bound) (rest : List Char) :
    readDigits seen false m 0 (ds ++ rest) =
      readDigits true false (Nat.ofDigitChars 10 ds m) 0 rest := by
  induction ds generalizing seen m with
  | nil => exact absurd rfl hne
  | cons c ds ih =>
    rw [List.forall_mem_cons] at hds
    rw [Nat.ofDigitChars_cons] at hbound ⊢
    have hfits : 10 * m + digitValue c < bound :=
      Nat.lt_of_le_of_lt (le_ofDigitChars ds _) hbound
    have hstep : readDigits seen false m 0 (c :: ds ++ rest) =
        readDigits true false (10 * m + digitValue c) 0 (ds ++ rest) := by
      rw [List.cons_append, readDigits]
      simp [hds.1, hfits]
    rw [hstep]
    cases ds with
    | nil => rfl
    | cons d ds => exact ih hds.2 (by simp) hbound

/-- Digits after the point add to the magnitude and to the scale. -/
theorem readDigits_fraction {ds : List Char} (hds : ∀ c ∈ ds, c.isDigit = true) {m scale : Nat}
    (hbound : Nat.ofDigitChars 10 ds m < bound) (hscale : scale + ds.length ≤ 28) :
    readDigits true true m scale ds = some (Nat.ofDigitChars 10 ds m, scale + ds.length) := by
  induction ds generalizing m scale with
  | nil => rfl
  | cons c ds ih =>
    rw [List.forall_mem_cons] at hds
    rw [Nat.ofDigitChars_cons] at hbound ⊢
    rw [List.length_cons] at hscale ⊢
    have hfits : 10 * m + digitValue c < bound :=
      Nat.lt_of_le_of_lt (le_ofDigitChars ds _) hbound
    rw [readDigits, if_pos hds.1]
    by_cases hlast : scale + 1 = 28
    · -- No digit is left after the 28th place, so nothing is rounded.
      obtain rfl : ds = [] := List.length_eq_zero_iff.1 (by omega)
      have hround : roundAt (10 * m + digitValue c) (scale + 1) (surplusAfter m []) =
          some (10 * m + digitValue c, scale + 1) := by
        simp [surplusAfter, roundAt, frontDigit]
      simp only [if_true, if_pos hfits, if_pos hlast]
      exact hround
    · have hrest : readDigits true true (10 * m + digitValue c) (scale + 1) ds =
          some (Nat.ofDigitChars 10 ds (10 * m + digitValue c), scale + 1 + ds.length) :=
        ih hds.2 hbound (by omega)
      simp only [if_true, if_pos hfits, if_neg hlast]
      rw [hrest, Nat.add_right_comm, Nat.add_assoc]
      rfl

/-- Digits with a point in front of the last `places` of them are read as a magnitude and a
scale. -/
theorem readDigits_point {ds : List Char} (hds : ∀ c ∈ ds, c.isDigit = true) {places : Nat}
    (hlen : places < ds.length) (hplaces : places ≤ 28)
    (hbound : Nat.ofDigitChars 10 ds 0 < bound) :
    readDigits false false 0 0 (ds.take (ds.length - places) ++
        (if places = 0 then [] else '.' :: ds.drop (ds.length - places))) =
      some (Nat.ofDigitChars 10 ds 0, places) := by
  have hwhole : ds.take (ds.length - places) ≠ [] := by
    rw [ne_eq, List.take_eq_nil_iff]
    rintro (h | rfl)
    · omega
    · simp at hlen
  have hsplit : Nat.ofDigitChars 10 (ds.drop (ds.length - places))
      (Nat.ofDigitChars 10 (ds.take (ds.length - places)) 0) = Nat.ofDigitChars 10 ds 0 := by
    rw [← Nat.ofDigitChars_append, List.take_append_drop]
  have hless := le_ofDigitChars (ds.drop (ds.length - places))
    (Nat.ofDigitChars 10 (ds.take (ds.length - places)) 0)
  rw [readDigits_whole (fun c hc => hds c (List.mem_of_mem_take hc)) hwhole (by omega)]
  by_cases hzero : places = 0
  · rw [if_pos hzero, hzero, Nat.sub_zero, List.take_length]
    rfl
  · have hfraction := readDigits_fraction
      (fun c hc => hds c (List.mem_of_mem_drop hc)) (hsplit.symm ▸ hbound)
      (by rw [List.length_drop]; omega : 0 + (ds.drop (ds.length - places)).length ≤ 28)
    rw [if_neg hzero, readDigits, if_neg (by decide), if_pos ⟨rfl, rfl⟩, hfraction, hsplit,
      List.length_drop]
    simp only [Option.some.injEq, Prod.mk.injEq, true_and]
    omega

/-- Digits with a sign in front of them or none are read with that sign. -/
theorem ofPositional?_sign {body : List Char} {m scale : Nat}
    (h : readDigits false false 0 0 body = some (m, scale)) (negative : Bool) :
    ofPositional? ((signText negative).toList ++ body) = ofParts? negative m scale := by
  cases negative with
  | true =>
    have hcons : (signText true).toList ++ body = '-' :: body := rfl
    rw [hcons, ofPositional?, h]
    rfl
  | false =>
    -- What is read as digits starts with no sign.
    have hsign : ∀ c ∈ ['-', '+'], ∀ r, body ≠ c :: r := by
      intro c hc r he
      simp only [List.mem_cons, List.not_mem_nil, or_false] at hc
      rw [he] at h
      obtain rfl | rfl := hc <;> simp [readDigits] at h
    have hnone : (signText false).toList ++ body = body := rfl
    rw [hnone, ofPositional?, h]
    · rfl
    · exact hsign '-' (by decide)
    · exact hsign '+' (by decide)

/-- Every digit of a decimal is read back, and its sign unless it is zero. -/
theorem ofText?_text (d : Decimal) : ofText? d.text = some d.withoutZeroSign := by
  have hlen := length_padded (d.scale + 1) d.magnitude
  have hvalue := ofDigitChars_padded (d.scale + 1) d.magnitude
  have hread := readDigits_point
    (fun c (hc : c ∈ (padded (d.scale + 1) d.magnitude).toList) => isDigit_of_mem_padded hc)
    hlen d.scale_le (by rw [hvalue]; exact d.magnitude_lt)
  rw [hvalue] at hread
  have htext : d.text.toList = (signText d.negative).toList ++
      ((padded (d.scale + 1) d.magnitude).toList.take
          ((padded (d.scale + 1) d.magnitude).toList.length - d.scale) ++
        if d.scale = 0 then [] else '.' :: (padded (d.scale + 1) d.magnitude).toList.drop
          ((padded (d.scale + 1) d.magnitude).toList.length - d.scale)) := by
    rw [text]
    simp only [String.toList_append, String.toList_ofList, ← String.length_toList,
      List.append_assoc]
    split <;> simp
  rw [ofText?, htext, ofPositional?_sign hread, ofParts?,
    dif_pos ⟨d.magnitude_lt, d.scale_le⟩]
  rfl

end Decimal

/-! ## days -/

theorem Text.endsDigits_cons {c : Char} {rest : List Char} (h : c.isDigit = false) :
    EndsDigits (c :: rest) := by
  simp [EndsDigits, h]

namespace Date

theorem mark?_cons {c : Char} (h : isBlank c = false) (rest : List Char) :
    mark? c (c :: rest) = some rest := by
  rw [mark?, dropBlanks, List.dropWhile_cons_of_neg (by simp [h])]
  exact if_pos rfl

theorem twoDigits?_padded {n : Nat} (h : n < 100) {rest : List Char} (hrest : EndsDigits rest) :
    twoDigits? ((padded 2 n).toList ++ rest) = some (n, rest) := by
  rw [twoDigits?, dropBlanks_padded]
  exact takeNumber?_padded (Nat.le_of_eq (length_padded_of_lt (by decide) h)) hrest

/-- A year is read back, with its sign if it has one. -/
theorem year?_yearText (year : Int) {rest : List Char} (hrest : EndsDigits rest) :
    year? ((yearText year).toList ++ rest) = some (year, rest) := by
  rw [yearText]
  by_cases hplain : 0 ≤ year ∧ year ≤ 9999
  · have hlen : (padded 4 year.natAbs).toList.length = 4 :=
      length_padded_of_lt (by decide) (by omega)
    rw [if_pos hplain]
    unfold year?
    rw [dropBlanks_padded]
    split
    next he => exact absurd he (padded_append_ne (by decide))
    next he => exact absurd he (padded_append_ne (by decide))
    next =>
      simp only [takeNumber?_padded (Nat.le_of_eq hlen) hrest, Option.map_some,
        Int.natAbs_of_nonneg hplain.1]
  · rw [if_neg hplain]
    have hread : takeNumber? ((padded 4 year.natAbs).toList ++ rest).length
        ((padded 4 year.natAbs).toList ++ rest) = some (year.natAbs, rest) :=
      takeNumber?_padded (by simp) hrest
    by_cases hsign : year < 0
    · have hcons : ("-" ++ padded 4 year.natAbs).toList ++ rest =
          '-' :: ((padded 4 year.natAbs).toList ++ rest) := by simp
      have hyear : -(year.natAbs : Int) = year := by omega
      rw [if_pos hsign, hcons, year?, dropBlanks, List.dropWhile_cons_of_neg (by decide)]
      simp only [hread, Option.map_some, hyear]
    · have hcons : ("+" ++ padded 4 year.natAbs).toList ++ rest =
          '+' :: ((padded 4 year.natAbs).toList ++ rest) := by simp
      have hyear : (year.natAbs : Int) = year := by omega
      rw [if_neg hsign, hcons, year?, dropBlanks, List.dropWhile_cons_of_neg (by decide)]
      simp only [hread, Option.map_some, hyear]

theorem month_lt (d : Date) : d.month < 100 := by
  obtain ⟨-, hone, hday⟩ := d.isDay
  by_contra hmonth
  have hnone : Calendar.daysInMonth d.year d.month = 0 := by
    unfold Calendar.daysInMonth
    split <;> omega
  omega

theorem day_lt (d : Date) : d.day < 100 := by
  obtain ⟨-, -, hday⟩ := d.isDay
  have hmost : Calendar.daysInMonth d.year d.month ≤ 31 := by
    unfold Calendar.daysInMonth
    split
    any_goals omega
    split <;> omega
  omega

/-- A day is taken off the front of a text. -/
theorem take?_text (d : Date) {rest : List Char} (hrest : EndsDigits rest) :
    take? (d.text.toList ++ rest) = some (d, rest) := by
  have hhyphen : ∀ cs, EndsDigits ('-' :: cs) := fun cs => endsDigits_cons (by decide)
  have hmark : ∀ cs, mark? '-' ('-' :: cs) = some cs := mark?_cons (by decide)
  have htext : d.text.toList ++ rest = (yearText d.year).toList ++
      '-' :: ((padded 2 d.month).toList ++ '-' :: ((padded 2 d.day).toList ++ rest)) := by
    simp [text]
  rw [htext, take?, year?_yearText d.year (hhyphen _)]
  simp only [Option.bind_eq_bind, Option.bind_some, hmark,
    twoDigits?_padded d.month_lt (hhyphen _), twoDigits?_padded d.day_lt hrest, ofParts?,
    dif_pos d.isDay]
  rfl

/-- A day is read back. -/
theorem ofText?_text (d : Date) : ofText? d.text = some d := by
  have hread : take? (d.text.toList ++ []) = some (d, []) := d.take?_text rfl
  rw [List.append_nil] at hread
  rw [ofText?, hread]
  rfl

end Date

/-! ## points in time -/

namespace Timestamp

/-- A fraction of at most nine digits is read as nanoseconds. -/
theorem takeFraction?_padded {width n : Nat} (hwidth : 0 < width) (hnine : width ≤ 9)
    (h : n < 10 ^ width) :
    takeFraction? ('.' :: (padded width n).toList) = some (n * 10 ^ (9 - width), []) := by
  have hlen := length_padded_of_lt hwidth h
  have hspan : ((padded width n).toList ++ []).span Char.isDigit = ((padded width n).toList, []) :=
    Reader.span_append (fun c hc => isDigit_of_mem_padded hc) rfl
  rw [List.append_nil, List.span_eq_takeWhile_dropWhile, Prod.mk.injEq] at hspan
  rw [takeFraction?, List.take_of_length_le (by omega), hspan.1, digits?_padded,
    List.drop_of_length_le (Nat.le_refl _), hlen]
  rfl

theorem takeFraction?_fractionText {n : Nat} (h : n < 1000000000) :
    takeFraction? (fractionText n).toList = some (n, []) := by
  have hdot : ∀ s : String, ("." ++ s).toList = '.' :: s.toList := fun s => String.toList_append
  rw [fractionText]
  split_ifs with hzero hmilli hmicro
  · rw [hzero]
    rfl
  · rw [hdot, takeFraction?_padded (by decide) (by decide) (by omega)]
    simp only [Option.some.injEq, Prod.mk.injEq, and_true]
    omega
  · rw [hdot, takeFraction?_padded (by decide) (by decide) (by omega)]
    simp only [Option.some.injEq, Prod.mk.injEq, and_true]
    omega
  · rw [hdot, takeFraction?_padded (by decide) (by decide) (by omega)]
    simp only [Option.some.injEq, Prod.mk.injEq, and_true]
    omega

/-- A point in time is read back. -/
theorem ofText?_text (t : Timestamp) : ofText? t.text = some t := by
  have hcolon : ∀ cs, EndsDigits (':' :: cs) := fun cs => endsDigits_cons (by decide)
  have hmark : ∀ cs, Date.mark? ':' (':' :: cs) = some cs := Date.mark?_cons (by decide)
  have hseconds : EndsDigits (fractionText t.nanosecond).toList := by
    rw [fractionText]
    split_ifs <;> simp [EndsDigits]
  have htext : t.text.toList = t.date.text.toList ++ 'T' :: ((padded 2 t.hour).toList ++
      ':' :: ((padded 2 t.minute).toList ++ ':' :: ((padded 2 t.second).toList ++
        (fractionText t.nanosecond).toList))) := by
    simp [text, clockText]
  rw [ofText?, htext, t.date.take?_text (endsDigits_cons (by decide))]
  simp only [Option.bind_eq_bind, Option.bind_some, Date.mark?_cons (c := 'T') (by decide), hmark,
    Date.twoDigits?_padded (Nat.lt_trans t.hour_lt (by decide)) (hcolon _),
    Date.twoDigits?_padded (Nat.lt_trans t.minute_lt (by decide)) (hcolon _),
    Date.twoDigits?_padded (Nat.lt_of_le_of_lt t.second_le (by decide)) hseconds,
    takeFraction?_fractionText t.nanosecond_lt]
  have hend : dropBlanks [] = [] := rfl
  rw [if_pos hend, ofParts?,
    dif_pos ⟨t.hour_lt, t.minute_lt, t.second_le, t.nanosecond_lt⟩]

end Timestamp

end RemoteQuery
