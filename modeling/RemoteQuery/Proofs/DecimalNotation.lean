import RemoteQuery.Calls.DateArithmetic
import RemoteQuery.Proofs.WrittenValues
import Mathlib.Data.List.Induction

/-!
# RemoteQuery.Proofs.DecimalNotation

Which texts denote a number, and which number.

A digit denotes its value, and a digit behind a numeral multiplies what the
numeral denotes by ten before it is added; so a numeral may start with any number
of zeros and has no greatest length.  The readers of numbers accept exactly the
numerals, each with the signs and blanks of its own.

* `Text.digits?_eq_some_iff` — bare numerals;
* `Text.natural?_eq_some_iff` — numerals below a bound, possibly after a plus sign;
* `Text.toList_trim_eq_iff` — what is left of a text without its outer blanks;
* `Calls.integerLiteral?_eq_some_iff` — numerals, possibly after a minus sign.
-/

namespace RemoteQuery

namespace Text

/-! ## numerals -/

/-- A numeral and the number it denotes. -/
inductive Denotes : List Char → Nat → Prop
  | digit {c : Char} (hc : c.isDigit = true) : Denotes [c] (digitValue c)
  | snoc {ds : List Char} {n : Nat} {c : Char} (hds : Denotes ds n) (hc : c.isDigit = true) :
      Denotes (ds ++ [c]) (10 * n + digitValue c)

section

variable {cs ds : List Char} {n : Nat}

theorem Denotes.ne_nil (h : Denotes ds n) : ds ≠ [] := by
  cases h <;> simp

theorem Denotes.isDigit (h : Denotes ds n) : ∀ c ∈ ds, c.isDigit = true := by
  induction h with
  | digit hc => simpa using hc
  | snoc _ hc ih =>
    rw [List.forall_mem_append]
    exact ⟨ih, by simpa using hc⟩

theorem ofDigitChars_snoc (ds : List Char) (c : Char) :
    Nat.ofDigitChars 10 (ds ++ [c]) 0 = 10 * Nat.ofDigitChars 10 ds 0 + digitValue c := by
  rw [Nat.ofDigitChars_append, Nat.ofDigitChars_cons, Nat.ofDigitChars_nil, digitValue]

theorem Denotes.ofDigitChars_eq (h : Denotes ds n) : Nat.ofDigitChars 10 ds 0 = n := by
  induction h with
  | digit hc => simpa using ofDigitChars_snoc [] _
  | snoc _ hc ih => rw [ofDigitChars_snoc, ih]

/-- Every run of digits denotes a number. -/
theorem denotes_ofDigitChars (hne : ds ≠ []) (hdigits : ∀ c ∈ ds, c.isDigit = true) :
    Denotes ds (Nat.ofDigitChars 10 ds 0) := by
  -- The last digit comes last in the notation, so the run is taken apart from its end.
  induction ds using List.reverseRecOn with
  | nil => exact absurd rfl hne
  | append_singleton ds c ih =>
    rw [List.forall_mem_append, List.forall_mem_singleton] at hdigits
    rw [ofDigitChars_snoc]
    cases ds with
    | nil => simpa using Denotes.digit hdigits.2
    | cons d ds => exact .snoc (ih (List.cons_ne_nil d ds) hdigits.1) hdigits.2

/-- The reader of digits accepts exactly the numerals. -/
theorem digits?_eq_some_iff : digits? cs = some n ↔ Denotes cs n := by
  rw [digits?]
  constructor
  · intro h
    split at h
    next hall =>
      cases h
      exact denotes_ofDigitChars hall.1 (List.all_eq_true.1 hall.2)
    next => cases h
  · intro h
    rw [if_pos ⟨h.ne_nil, List.all_eq_true.2 h.isDigit⟩, h.ofDigitChars_eq]

/-- A number is denoted by its digits. -/
theorem denotes_toDigits (n : Nat) : Denotes (Nat.toDigits 10 n) n :=
  digits?_eq_some_iff.1 (digits?_toDigits n)

/-! ## plus signs -/

/-- A numeral, possibly after a plus sign, and the number it denotes. -/
def DenotesNatural (cs : List Char) (n : Nat) : Prop :=
  Denotes cs n ∨ ∃ ds, cs = '+' :: ds ∧ Denotes ds n

/-- A plus sign is no digit. -/
theorem not_denotes_plus : ¬Denotes ('+' :: ds) n := by
  intro h
  exact absurd (h.isDigit '+' List.mem_cons_self) (by decide)

/-- The reader of bounded numbers accepts exactly the numerals below its bound. -/
theorem natural?_eq_some_iff {bound : Nat} :
    natural? bound cs = some n ↔ DenotesNatural cs n ∧ n < bound := by
  simp only [natural?, Option.filter_eq_some_iff, decide_eq_true_eq, digits?_eq_some_iff]
  refine and_congr_left fun _ => ?_
  rw [DenotesNatural]
  split
  next ds => simp [not_denotes_plus]
  next hplus =>
    have hbare : ¬∃ ds, cs = '+' :: ds ∧ Denotes ds n := by
      rintro ⟨ds, h, -⟩
      exact hplus ds h
    rw [or_iff_left hbare]

theorem DenotesNatural.ne_nil (h : DenotesNatural cs n) : cs ≠ [] := by
  obtain h | ⟨ds, rfl, -⟩ := h
  · exact h.ne_nil
  · exact List.cons_ne_nil '+' ds

/-- No blank stands in a numeral. -/
theorem DenotesNatural.isBlank (h : DenotesNatural cs n) : ∀ c ∈ cs, isBlank c = false := by
  obtain h | ⟨ds, rfl, h⟩ := h
  · exact fun c hc => isBlank_of_isDigit (h.isDigit c hc)
  · exact List.forall_mem_cons.2
      ⟨by decide, fun c hc => isBlank_of_isDigit (h.isDigit c hc)⟩

end

/-! ## outer blanks -/

section

variable {left core right : List Char}

theorem dropBlanks_append (hleft : ∀ c ∈ left, isBlank c = true) (rest : List Char) :
    dropBlanks (left ++ rest) = dropBlanks rest :=
  List.dropWhile_append_of_pos hleft

/-- A text that starts without a blank has none in front. -/
theorem dropBlanks_of_core (hne : core ≠ []) (hcore : ∀ c ∈ core, isBlank c = false)
    (rest : List Char) : dropBlanks (core ++ rest) = core ++ rest := by
  obtain ⟨c, cs, rfl⟩ := List.exists_cons_of_ne_nil hne
  have hc : isBlank c = false := hcore c List.mem_cons_self
  rw [List.cons_append, dropBlanks, List.dropWhile_cons_of_neg (by simp [hc])]

/-- What stands in front of the rest are blanks. -/
theorem exists_dropBlanks (cs : List Char) :
    ∃ left, cs = left ++ dropBlanks cs ∧ ∀ c ∈ left, isBlank c = true :=
  ⟨cs.takeWhile isBlank, List.takeWhile_append_dropWhile.symm,
    fun c hc => List.all_eq_true.1 List.all_takeWhile c hc⟩

/-- Trimming leaves exactly what stands between the outer blanks. -/
theorem toList_trim_eq_iff {s : String} (hne : core ≠ []) (hcore : ∀ c ∈ core, isBlank c = false) :
    (trim s).toList = core ↔ ∃ left right, s.toList = left ++ core ++ right ∧
      (∀ c ∈ left, isBlank c = true) ∧ ∀ c ∈ right, isBlank c = true := by
  rw [trim, String.toList_ofList]
  constructor
  · rintro rfl
    obtain ⟨left, hs, hleft⟩ := exists_dropBlanks s.toList
    obtain ⟨right, hrest, hright⟩ := exists_dropBlanks (dropBlanks s.toList).reverse
    refine ⟨left, right.reverse, ?_, hleft, by simpa using hright⟩
    rw [List.append_assoc, ← List.reverse_append, ← hrest, List.reverse_reverse]
    exact hs
  · rintro ⟨left, right, hs, hleft, hright⟩
    have hright' : ∀ c ∈ right.reverse, isBlank c = true := by simpa using hright
    have hcore' : ∀ c ∈ core.reverse, isBlank c = false := by simpa using hcore
    have hne' : core.reverse ≠ [] := by simpa using hne
    rw [hs, List.append_assoc, dropBlanks_append hleft, dropBlanks_of_core hne hcore,
      List.reverse_append, dropBlanks_append hright']
    simpa using congrArg List.reverse (dropBlanks_of_core hne' hcore' [])

end

end Text

/-! ## minus signs -/

namespace Calls

/-- A numeral, possibly after a minus sign, and the integer it denotes. -/
def DenotesInteger (text : String) (n : Int) : Prop :=
  (∃ m : Nat, Text.Denotes text.toList m ∧ n = m) ∨
    ∃ ds m, text.toList = '-' :: ds ∧ Text.Denotes ds m ∧ n = -(m : Int)

/-- A minus sign is no digit. -/
theorem not_denotes_minus {ds : List Char} {n : Nat} : ¬Text.Denotes ('-' :: ds) n := by
  intro h
  exact absurd (h.isDigit '-' List.mem_cons_self) (by decide)

/-- The reader of integer literals accepts exactly the numerals with or without a minus sign. -/
theorem integerLiteral?_eq_some_iff {text : String} {n : Int} :
    integerLiteral? text = some n ↔ DenotesInteger text n := by
  rw [integerLiteral?, DenotesInteger]
  split
  next ds hds =>
    simp [hds, not_denotes_minus, Option.bind_eq_some_iff, Text.digits?_eq_some_iff,
      eq_comm (a := n)]
  next hminus =>
    have hbare : ¬∃ ds m, text.toList = '-' :: ds ∧ Text.Denotes ds m ∧ n = -(m : Int) := by
      rintro ⟨ds, m, h, -⟩
      exact hminus ds h
    rw [or_iff_left hbare]
    simp [Option.bind_eq_some_iff, Text.digits?_eq_some_iff, eq_comm (a := n)]

end Calls

end RemoteQuery
