import RemoteQuery.Target.Profile
import RemoteQuery.Text.Ascii
import Mathlib

/-!
# RemoteQuery.Proofs.Identifiers

What is written for an identifier is read back as the identifier.

A quoted identifier is read by taking the quotes off.  A bare one is read through
the case folding of the target, so it may be written bare only if the folding
leaves it as it is.

* `QuoteStyle.unquote?_quote` — quoting is undone by taking the quotes off;
* `CaseHandling.isSimple_iff` — the test for bare identifiers, in terms of letters
  and of the folding;
* `Profile.identifierText_reversible` — both forms of an identifier are read back,
  and the bare one is written exactly where the target would read it unchanged.
-/

namespace RemoteQuery

/-! ## quotes -/

/-- Every quote character inside of quotes is written at least once. -/
theorem Text.length_le_double (q : Char) (cs : List Char) :
    cs.length ≤ (Text.double q cs).length := by
  induction cs with
  | nil => simp
  | cons c cs ih =>
    rw [Text.double]
    split <;> simp only [List.length_cons] <;> omega

namespace QuoteStyle

theorem unescape_escape (style : QuoteStyle) (cs : List Char) :
    style.unescape (style.escape cs) = cs := by
  cases style with
  | double => exact Text.undouble_double '"' cs
  | backtick => exact Text.undouble_double '\x60' cs
  | bracket => rfl

/-- Taking the quotes off undoes quoting. -/
@[simp] theorem unquote?_quote (style : QuoteStyle) (s : String) :
    style.unquote? (style.quote s) = some s := by
  simp [unquote?, quote, Text.enclosed?_enclose, unescape_escape]

theorem length_le_escape (style : QuoteStyle) (cs : List Char) :
    cs.length ≤ (style.escape cs).length := by
  cases style with
  | double | backtick => exact Text.length_le_double _ cs
  | bracket => exact Nat.le_refl _

/-- A quoted identifier is longer than the identifier. -/
theorem quote_ne_self (style : QuoteStyle) (s : String) : style.quote s ≠ s := by
  intro h
  have hlonger := style.length_le_escape s.toList
  have hlength := congrArg (fun text => text.toList.length) h
  simp only [quote, Text.enclose, String.toList_ofList, List.length_append, List.length_cons,
    List.length_nil] at hlength
  omega

/-- No quote opens where a text begins with another character. -/
theorem unquote?_eq_none {style : QuoteStyle} {s : String} {c : Char} {cs : List Char}
    (hs : s.toList = c :: cs) (hc : c ≠ style.opening) : style.unquote? s = none := by
  simp [unquote?, Text.enclosed?, hs, hc]

end QuoteStyle

/-! ## case -/

namespace CaseHandling

/-- What becomes of a character when an identifier is stored. -/
def foldChar : CaseHandling → Char → Char
  | foldUpper, c => c.toUpper
  | foldLower, c => c.toLower
  | caseSensitive, c => c

theorem toList_fold (h : CaseHandling) (s : String) :
    (h.fold s).toList = s.toList.map h.foldChar := by
  cases h with
  | foldUpper => exact String.toList_map
  | foldLower => exact String.toList_map
  | caseSensitive => exact (List.map_id s.toList).symm

theorem fold_eq_self_iff {h : CaseHandling} {s : String} :
    h.fold s = s ↔ ∀ c ∈ s.toList, h.foldChar c = c := by
  have hid : s.toList.map h.foldChar = s.toList ↔ s.toList.map h.foldChar = s.toList.map id := by
    rw [List.map_id]
  rw [← String.toList_inj, toList_fold, hid, List.map_inj_left]
  rfl

/-- The letters that survive the folding are those that it leaves as they are. -/
theorem keepsLetter_iff {h : CaseHandling} {c : Char} :
    h.keepsLetter c = true ↔ c.isAlpha = true ∧ h.foldChar c = c := by
  cases h with
  | foldUpper =>
    grind [keepsLetter, foldChar, Char.isAlpha, Char.isUpper, Char.isLower, Char.toUpper]
  | foldLower =>
    grind [keepsLetter, foldChar, Char.isAlpha, Char.isUpper, Char.isLower, Char.toLower]
  | caseSensitive => simp [keepsLetter, foldChar]

/-- Folding is about letters only. -/
theorem foldChar_eq_self (h : CaseHandling) {c : Char} (hc : c.isAlpha = false) :
    h.foldChar c = c := by
  cases h with
  | foldUpper => grind [foldChar, Char.isAlpha, Char.isLower, Char.toUpper]
  | foldLower => grind [foldChar, Char.isAlpha, Char.isUpper, Char.toLower]
  | caseSensitive => rfl

theorem isAlpha_of_isDigit {c : Char} (hc : c.isDigit = true) : c.isAlpha = false := by
  grind [Char.isAlpha, Char.isUpper, Char.isLower, Char.isDigit]

/-- A character may follow in a bare identifier if it may in any and the folding leaves it as it
is. -/
theorem keepsLetter_or_iff {h : CaseHandling} {c : Char} :
    (h.keepsLetter c || c.isDigit || c == '_') = true ↔
      (c.isAlphanum = true ∨ c = '_') ∧ h.foldChar c = c := by
  rw [Bool.or_eq_true, Bool.or_eq_true, beq_iff_eq, keepsLetter_iff, Char.isAlphanum,
    Bool.or_eq_true]
  constructor
  · rintro ((⟨halpha, hfold⟩ | hdigit) | rfl)
    · exact ⟨.inl (.inl halpha), hfold⟩
    · exact ⟨.inl (.inr hdigit), h.foldChar_eq_self (isAlpha_of_isDigit hdigit)⟩
    · exact ⟨.inr rfl, h.foldChar_eq_self rfl⟩
  · rintro ⟨(halpha | hdigit) | hunderscore, hfold⟩
    · exact .inl (.inl ⟨halpha, hfold⟩)
    · exact .inl (.inr hdigit)
    · exact .inr hunderscore

/-- An identifier can be written bare if it is a letter before letters, digits and underscores, and
the folding leaves it as it is. -/
theorem isSimple_iff {h : CaseHandling} {s : String} :
    h.isSimple s = true ↔
      (∃ c cs, s.toList = c :: cs ∧ c.isAlpha = true) ∧
        (∀ c ∈ s.toList, c.isAlphanum = true ∨ c = '_') ∧ h.fold s = s := by
  rw [isSimple, fold_eq_self_iff]
  cases s.toList with
  | nil => simp
  | cons c cs =>
    have hhead : (∃ c' cs', c :: cs = c' :: cs' ∧ c'.isAlpha = true) ↔ c.isAlpha = true := by simp
    have hword (halpha : c.isAlpha = true) : c.isAlphanum = true ∨ c = '_' :=
      .inl (Bool.or_eq_true_iff.2 (.inl halpha))
    simp only [Bool.and_eq_true, List.all_eq_true, keepsLetter_or_iff, List.forall_mem_cons,
      hhead, keepsLetter_iff]
    constructor
    · rintro ⟨⟨halpha, hfold⟩, hrest⟩
      exact ⟨halpha, ⟨hword halpha, fun d hd => (hrest d hd).1⟩, hfold, fun d hd => (hrest d hd).2⟩
    · rintro ⟨halpha, ⟨-, hrest⟩, hfold, hfolds⟩
      exact ⟨⟨halpha, hfold⟩, fun d hd => ⟨hrest d hd, hfolds d hd⟩⟩

end CaseHandling

/-! ## reserved words -/

theorem toLower_of_mem_reservedWords : ∀ w ∈ reservedWords, w.toLower = w := by
  decide +kernel

/-- A word is reserved if it is one of the listed words in some case. -/
theorem isReservedWord_iff {s : String} :
    isReservedWord s = true ↔ ∃ w ∈ reservedWords, Text.sameWord s w = true := by
  rw [isReservedWord, List.contains_iff_mem]
  constructor
  · intro h
    refine ⟨s.toLower, h, ?_⟩
    rw [Text.sameWord, toLower_of_mem_reservedWords _ h, beq_self_eq_true]
  · rintro ⟨w, hw, hsame⟩
    rw [Text.sameWord, beq_iff_eq, toLower_of_mem_reservedWords w hw] at hsame
    rwa [hsame]

/-! ## written identifiers -/

namespace Profile

/-- A target reads an identifier back as it is when it is written bare: it is a word that begins
with a letter, that the target stores unchanged and that is not reserved in any case. -/
structure ReadsBare (d : Profile) (s : String) : Prop where
  startsWithLetter : ∃ c cs, s.toList = c :: cs ∧ c.isAlpha = true
  word : ∀ c ∈ s.toList, c.isAlphanum = true ∨ c = '_'
  stored : d.unquotedCase.fold s = s
  unreserved : ∀ w ∈ reservedWords, Text.sameWord s w = false

variable {d : Profile} {s : String}

theorem readsBare_iff :
    d.ReadsBare s ↔ (d.unquotedCase.isSimple s && !isReservedWord s) = true := by
  have hreserved : isReservedWord s = false ↔ ∀ w ∈ reservedWords, Text.sameWord s w = false := by
    rw [← Bool.not_eq_true, isReservedWord_iff]
    simp
  rw [Bool.and_eq_true, Bool.not_eq_true', hreserved, CaseHandling.isSimple_iff]
  constructor
  · rintro ⟨hletter, hword, hstored, hunreserved⟩
    exact ⟨⟨hletter, hword, hstored⟩, hunreserved⟩
  · rintro ⟨⟨hletter, hword, hstored⟩, hunreserved⟩
    exact ⟨hletter, hword, hstored, hunreserved⟩

theorem identifierText_of_readsBare (h : d.ReadsBare s) : d.identifierText s = s := by
  rw [identifierText, if_pos (readsBare_iff.1 h)]

theorem identifierText_of_not_readsBare (h : ¬d.ReadsBare s) : d.identifierText s = d.quote s := by
  rw [identifierText, if_neg fun hbare => h (readsBare_iff.2 hbare)]

/-- A bare identifier does not look quoted. -/
theorem unquote?_of_readsBare (h : d.ReadsBare s) : d.quoteStyle.unquote? s = none := by
  obtain ⟨c, cs, hs, halpha⟩ := h.startsWithLetter
  refine QuoteStyle.unquote?_eq_none hs ?_
  rintro rfl
  revert halpha
  cases d.quoteStyle <;> decide

/-- What is written for an identifier is read back, with quotes or without. -/
@[simp] theorem getD_unquote?_identifierText (d : Profile) (s : String) :
    (d.quoteStyle.unquote? (d.identifierText s)).getD (d.identifierText s) = s := by
  by_cases hbare : d.ReadsBare s
  · rw [identifierText_of_readsBare hbare, unquote?_of_readsBare hbare, Option.getD_none]
  · rw [identifierText_of_not_readsBare hbare, quote, QuoteStyle.unquote?_quote, Option.getD_some]

/-- **Identifiers are read back.**  Taking the quotes off undoes quoting.  A target writes an
identifier bare or in quotes, and either way it is read back; it is written bare exactly where the
target reads it as it is. -/
theorem identifierText_reversible (style : QuoteStyle) (d : Profile) (s : String) :
    style.unquote? (style.quote s) = some s ∧
      (d.identifierText s = s ∨ d.identifierText s = d.quote s) ∧
      (d.quoteStyle.unquote? (d.identifierText s)).getD (d.identifierText s) = s ∧
      (d.identifierText s = s ↔ d.ReadsBare s) := by
  refine ⟨style.unquote?_quote s, ?_, d.getD_unquote?_identifierText s, ?_⟩
  · by_cases hbare : d.ReadsBare s
    · exact .inl (identifierText_of_readsBare hbare)
    · exact .inr (identifierText_of_not_readsBare hbare)
  · refine ⟨fun hself => ?_, identifierText_of_readsBare⟩
    by_cases hbare : d.ReadsBare s
    · exact hbare
    · rw [identifierText_of_not_readsBare hbare] at hself
      exact absurd hself (d.quoteStyle.quote_ne_self s)

end Profile

end RemoteQuery
