import RemoteQuery.Proofs.DecimalNotation
import RemoteQuery.Proofs.FirstCharacters
import RemoteQuery.Proofs.JsonText
import RemoteQuery.Proofs.MappedTypes

/-!
# RemoteQuery.Proofs.FoldedAmounts

An amount that is multiplied while it is written keeps its value.

Weeks are written as days and years as months.  An integer literal is multiplied at
once, in integers of 64 bits; the digits of the literal, of which there may be any
number, are read in such integers too.  `…InWords` is this computation step by step,
as in the mapping of types: it has no result as soon as a number leaves its word.

* `readInWords_eq` — a literal is read without leaving the word exactly when its
  value is in the word;
* `canonical_toString` — what is written for an integer is its shortest literal;
* `multiplied_keeps_value` — the amounts that are multiplied at once, and all others.
-/

namespace RemoteQuery.Calls

/-! ## words -/

/-- A magnitude with a sign. -/
def signed (negative : Bool) (m : Nat) : Int :=
  if negative then -(m : Int) else m

theorem keep?_eq (n : Int) : Word.int64.keep? n = if IsWord n then some n else none :=
  rfl

theorem keep?_of_isWord {n : Int} (h : IsWord n) : Word.int64.keep? n = some n := by
  rw [keep?_eq, if_pos h]

theorem keep?_of_not_isWord {n : Int} (h : ¬IsWord n) : Word.int64.keep? n = none := by
  rw [keep?_eq, if_neg h]

/-- Nothing nearer to zero than a number of 64 bits needs more of them. -/
theorem isWord_signed_of_le {negative : Bool} {k m : Nat} (hle : k ≤ m)
    (hm : IsWord (signed negative m)) : IsWord (signed negative k) := by
  have hleast : Int64.minValue.toInt = -2 ^ 63 := rfl
  have hgreatest : Int64.maxValue.toInt = 2 ^ 63 - 1 := rfl
  unfold IsWord signed at *
  cases negative <;> simp only [if_true, Bool.false_eq_true, if_false] at * <;> omega

/-! ## reading in words -/

/-- The digits behind a number that is already read.  Each of them multiplies the number by ten and
moves it on, away from zero; both steps are kept in a word. -/
def readInWords (negative : Bool) : Int → List Char → Option Int
  | n, [] => some n
  | n, c :: cs => do
    let shifted ← Word.int64.keep? (n * 10)
    let next ← Word.int64.keep? (shifted + signed negative (Text.digitValue c))
    readInWords negative next cs

/-- One digit is read without leaving the word exactly when the number with it is in the word. -/
theorem readInWords_cons {negative : Bool} {m : Nat} (c : Char) (cs : List Char) :
    readInWords negative (signed negative m) (c :: cs) =
      (Word.int64.keep? (signed negative (10 * m + Text.digitValue c))).bind
        fun n => readInWords negative n cs := by
  have hshift : signed negative m * 10 = signed negative (10 * m) := by
    unfold signed
    split <;> omega
  have hnext : signed negative (10 * m) + signed negative (Text.digitValue c) =
      signed negative (10 * m + Text.digitValue c) := by
    unfold signed
    split <;> omega
  rw [readInWords, hshift]
  by_cases hword : IsWord (signed negative (10 * m + Text.digitValue c))
  · have hbefore : IsWord (signed negative (10 * m)) :=
      isWord_signed_of_le (Nat.le_add_right _ _) hword
    simp [keep?_of_isWord hbefore, hnext]
  · rw [keep?_of_not_isWord hword, Option.bind_none]
    -- Where the product is still in the word, the sum is not.
    rw [keep?_eq]
    split
    · simp [hnext, keep?_of_not_isWord hword]
    · rfl

/-- The digits of a number are read without leaving the word exactly when the number is in the word:
no number that is passed on the way is farther from zero than the last. -/
theorem readInWords_eq {negative : Bool} {m : Nat} {ds : List Char}
    (hm : IsWord (signed negative m)) :
    readInWords negative (signed negative m) ds =
      Word.int64.keep? (signed negative (Nat.ofDigitChars 10 ds m)) := by
  induction ds generalizing m with
  | nil => rw [readInWords, Nat.ofDigitChars_nil, keep?_of_isWord hm]
  | cons c cs ih =>
    rw [readInWords_cons, Nat.ofDigitChars_cons]
    by_cases hword : IsWord (signed negative (10 * m + Text.digitValue c))
    · rw [keep?_of_isWord hword, Option.bind_some]
      exact ih hword
    · have hlast :
          ¬IsWord (signed negative (Nat.ofDigitChars 10 cs (10 * m + Text.digitValue c))) :=
        fun h => hword (isWord_signed_of_le (Decimal.le_ofDigitChars cs _) h)
      rw [keep?_of_not_isWord hword, Option.bind_none]
      exact (keep?_of_not_isWord hlast).symm

/-- An integer literal, read in words. -/
def literalInWords? (text : String) : Option Int :=
  if isIntegerLiteral text then
    match text.toList with
    | '-' :: ds => readInWords true 0 ds
    | ds => readInWords false 0 ds
  else none

/-- Reading in words gives the value of every literal whose value is in the word, and no other. -/
theorem literalInWords?_eq (text : String) :
    literalInWords? text = (integerLiteral? text).bind Word.int64.keep? := by
  have hzero (negative : Bool) : IsWord (signed negative 0) := by cases negative <;> decide
  rw [literalInWords?, isIntegerLiteral]
  cases hread : integerLiteral? text with
  | none => rfl
  | some n =>
    rw [Option.isSome_some, if_pos rfl, Option.bind_some]
    obtain ⟨m, hm, rfl⟩ | ⟨ds, m, hds, hm, rfl⟩ := integerLiteral?_eq_some_iff.1 hread
    · split
      next ds hds => exact absurd (hds ▸ hm) not_denotes_minus
      next => exact (readInWords_eq (hzero false)).trans (by rw [hm.ofDigitChars_eq]; rfl)
    · simp only [hds]
      exact (readInWords_eq (hzero true)).trans (by rw [hm.ofDigitChars_eq]; rfl)

/-- A multiplied amount, computed in words. -/
def multipliedInWords (factor : Int) (amount : String) : String :=
  match (literalInWords? amount).bind fun n => Word.int64.keep? (n * factor) with
  | some product => toString product
  | none => "(" ++ toString factor ++ " * " ++ amount ++ ")"

theorem multipliedInWords_eq (factor : Int) (amount : String) :
    multipliedInWords factor amount = multiplied factor amount := by
  rw [multipliedInWords, literalInWords?_eq, multiplied]
  cases integerLiteral? amount with
  | none => rfl
  | some n =>
    simp only [Option.bind_some, Int.mul_comm factor n]
    by_cases hn : IsWord n
    · rw [keep?_of_isWord hn, Option.bind_some, keep?_eq]
      by_cases hproduct : IsWord (n * factor) <;> simp [hn, hproduct]
    · rw [keep?_of_not_isWord hn]
      simp [hn]

/-! ## canonical literals -/

/-- A literal of an integer without a zero or a sign that could be left out. -/
structure Canonical (text : String) (n : Int) : Prop where
  denotes : DenotesInteger text n
  /-- A zero in front is the whole text. -/
  bare : ∀ ds, text.toList = '0' :: ds → ds = []
  /-- No zero stands behind a sign. -/
  signed : ∀ ds, text.toList ≠ '-' :: '0' :: ds

theorem toDigits_eq_zero_cons {m : Nat} {ds : List Char} (h : Nat.toDigits 10 m = '0' :: ds) :
    m = 0 :=
  Json.eq_zero_of_head?_toDigits (by rw [h, List.head?_cons])

/-- What is written for an integer is its canonical literal. -/
theorem canonical_toString (n : Int) : Canonical (toString n) n where
  denotes := integerLiteral?_eq_some_iff.1 (integerLiteral?_toString n)
  bare ds h := by
    rw [Int.toString_eq_repr, Int.repr_eq_if] at h
    split at h
    · rw [Nat.toList_repr] at h
      rw [toDigits_eq_zero_cons h, Nat.toDigits_zero] at h
      exact (List.cons.inj h).2.symm
    · simp at h
  signed ds h := by
    rw [Int.toString_eq_repr, Int.repr_eq_if] at h
    split at h
    · rw [Nat.toList_repr] at h
      exact not_denotes_minus (h ▸ Text.denotes_toDigits n.toNat)
    · rw [String.toList_append, Nat.toList_repr] at h
      have hzero := toDigits_eq_zero_cons (List.cons.inj h).2
      omega

/-! ## multiplied amounts -/

/-- **A multiplied amount keeps its value**: an integer literal of 64 bits whose product has 64 bits
is written as the canonical literal of the product; any other amount stays as it is, in the text of
a product.  Nothing that is computed on the way leaves its word. -/
theorem multiplied_keeps_value (factor : Int) (amount : String) :
    (∀ n, DenotesInteger amount n → IsWord n → IsWord (factor * n) →
      Canonical (multiplied factor amount) (factor * n) ∧
        multiplied factor amount = toString (factor * n) ∧
        isIntegerLiteral (multiplied factor amount) = true) ∧
    ((¬∃ n, DenotesInteger amount n ∧ IsWord n ∧ IsWord (factor * n)) →
      multiplied factor amount = "(" ++ toString factor ++ " * " ++ amount ++ ")") ∧
    multipliedInWords factor amount = multiplied factor amount := by
  refine ⟨?_, ?_, multipliedInWords_eq factor amount⟩
  · intro n hn hword hproduct
    have htext : multiplied factor amount = toString (factor * n) := by
      rw [multiplied, integerLiteral?_eq_some_iff.2 hn]
      exact if_pos ⟨hword, hproduct⟩
    have hliteral : isIntegerLiteral (toString (factor * n)) = true := by
      rw [isIntegerLiteral, integerLiteral?_toString]
      rfl
    rw [htext]
    exact ⟨canonical_toString _, rfl, hliteral⟩
  · intro hother
    rw [multiplied]
    split
    next n hn =>
      exact if_neg fun hword => hother ⟨n, integerLiteral?_eq_some_iff.1 hn, hword⟩
    next => rfl

/-- Eight times an eighth of the least word is the least word; with the other sign it is no word. -/
theorem multiplied_least_word :
    multiplied 8 "-001152921504606846976" = "-9223372036854775808" ∧
      Canonical "-9223372036854775808" (8 * -1152921504606846976) ∧
      multiplied 8 "1152921504606846976" = "(8 * 1152921504606846976)" := by
  have hread : integerLiteral? "-001152921504606846976" = some (-1152921504606846976) := by
    decide
  obtain ⟨hcanonical, htext, -⟩ := (multiplied_keeps_value 8 "-001152921504606846976").1 _
    (integerLiteral?_eq_some_iff.1 hread) (by decide) (by decide)
  have hwide : ¬∃ n, DenotesInteger "1152921504606846976" n ∧ IsWord n ∧ IsWord (8 * n) := by
    rintro ⟨n, hn, -, hproduct⟩
    have hvalue : integerLiteral? "1152921504606846976" = some 1152921504606846976 := by
      decide
    rw [integerLiteral?_eq_some_iff.2 hn] at hvalue
    cases hvalue
    exact absurd hproduct (by decide)
  have hkept := (multiplied_keeps_value 8 "1152921504606846976").2.1 hwide
  rw [htext] at hcanonical
  exact ⟨htext, hcanonical, hkept⟩

end RemoteQuery.Calls
