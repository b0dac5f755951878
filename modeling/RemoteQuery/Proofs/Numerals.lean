import RemoteQuery.Number.Double.Shortest
import RemoteQuery.Query.Literal
import RemoteQuery.Text.Quoted

/-!
# RemoteQuery.Proofs.Numerals

The characters of written numbers, days and points in time.

* `Decimal.isNumeral_text`, `Double.isNumeral_text` — a written number starts
  with a digit, possibly after a minus sign, and every later minus sign stands
  right before a digit;
* `Date.verbatim_text`, `Timestamp.verbatim_text` — a day or a point in time can
  stand between quotes as it is.
-/

namespace RemoteQuery

namespace Text

/-- Digits, points and exponent marks; a minus sign stands only right before a digit. -/
inductive SignedDigits : List Char → Prop
  | nil : SignedDigits []
  | plain {c : Char} {cs : List Char} (h : c.isDigit = true ∨ c = '.' ∨ c = 'e') :
      SignedDigits cs → SignedDigits (c :: cs)
  | sign {c : Char} {cs : List Char} (h : c.isDigit = true) :
      SignedDigits cs → SignedDigits ('-' :: c :: cs)

theorem SignedDigits.append {xs ys : List Char} (hx : SignedDigits xs) (hy : SignedDigits ys) :
    SignedDigits (xs ++ ys) := by
  induction hx with
  | nil => exact hy
  | plain h _ ih => exact .plain h ih
  | sign h _ ih => exact .sign h ih

theorem SignedDigits.of_digits {ds : List Char} (h : ∀ c ∈ ds, c.isDigit = true) :
    SignedDigits ds := by
  induction ds with
  | nil => exact .nil
  | cons c ds ih =>
    rw [List.forall_mem_cons] at h
    exact .plain (.inl h.1) (ih h.2)

theorem SignedDigits.digit_or_mark {cs : List Char} (h : SignedDigits cs) :
    ∀ c ∈ cs, c.isDigit = true ∨ c ∈ ['.', 'e', '-'] := by
  induction h with
  | nil => exact fun c hc => absurd hc List.not_mem_nil
  | plain hc _ ih =>
    refine List.forall_mem_cons.2 ⟨hc.imp_right ?_, ih⟩
    rintro (rfl | rfl) <;> decide
  | sign hc _ ih =>
    exact List.forall_mem_cons.2 ⟨.inr (by decide), List.forall_mem_cons.2 ⟨.inl hc, ih⟩⟩

/-- A text of signed digits that starts with a digit. -/
def IsUnsigned (cs : List Char) : Prop :=
  ∃ c rest, cs = c :: rest ∧ c.isDigit = true ∧ SignedDigits rest

/-- A text of signed digits that starts with a digit or with a sign and a digit. -/
def IsNumeral (cs : List Char) : Prop :=
  IsUnsigned cs ∨ ∃ body, cs = '-' :: body ∧ IsUnsigned body

theorem IsUnsigned.append {xs ys : List Char} (hx : IsUnsigned xs) (hy : SignedDigits ys) :
    IsUnsigned (xs ++ ys) := by
  obtain ⟨c, rest, rfl, hc, hrest⟩ := hx
  exact ⟨c, rest ++ ys, rfl, hc, hrest.append hy⟩

theorem IsUnsigned.of_digits {ds : List Char} (hne : ds ≠ [])
    (h : ∀ c ∈ ds, c.isDigit = true) : IsUnsigned ds := by
  obtain ⟨c, rest, rfl⟩ := List.exists_cons_of_ne_nil hne
  rw [List.forall_mem_cons] at h
  exact ⟨c, rest, rfl, h.1, .of_digits h.2⟩

theorem IsUnsigned.signedDigits {cs : List Char} (h : IsUnsigned cs) : SignedDigits cs := by
  obtain ⟨c, rest, rfl, hc, hrest⟩ := h
  exact .plain (.inl hc) hrest

theorem IsNumeral.signedDigits {cs : List Char} (h : IsNumeral cs) : SignedDigits cs := by
  obtain h | ⟨body, rfl, c, rest, rfl, hc, hrest⟩ := h
  · exact h.signedDigits
  · exact .sign hc hrest

/-- A sign in front of an unsigned numeral, or none. -/
theorem IsUnsigned.withSign {cs : List Char} (h : IsUnsigned cs) (negative : Bool) :
    IsNumeral ((if negative then "-" else "").toList ++ cs) := by
  cases negative with
  | true => exact .inr ⟨cs, rfl, h⟩
  | false => exact .inl h

/-! ## integers -/

theorem isDigit_of_mem_digits {n : Nat} {c : Char} (h : c ∈ Nat.toDigits 10 n) :
    c.isDigit = true :=
  Nat.isDigit_of_mem_toDigits (by decide) (by decide) h

theorem isUnsigned_digits (n : Nat) : IsUnsigned (Nat.toDigits 10 n) :=
  .of_digits Nat.toDigits_ne_nil fun _ h => isDigit_of_mem_digits h

theorem isNumeral_int (n : Int) : IsNumeral (toString n).toList := by
  rw [Int.toString_eq_repr, Int.repr_eq_if]
  split
  · rw [Nat.toList_repr]
    exact .inl (isUnsigned_digits _)
  · rw [String.toList_append, Nat.toList_repr]
    exact (isUnsigned_digits _).withSign true

theorem isDigit_of_mem_padded {width n : Nat} {c : Char} (h : c ∈ (padded width n).toList) :
    c.isDigit = true := by
  rw [padded, String.toList_ofList, List.mem_append] at h
  obtain h | h := h
  · rw [List.eq_of_mem_replicate h]
    decide
  · exact isDigit_of_mem_digits h

theorem length_padded (width n : Nat) : width ≤ (padded width n).toList.length := by
  rw [padded, String.toList_ofList, List.length_append, List.length_replicate]
  omega

/-- A run of digits with a point in front of its last `places` digits. -/
theorem isUnsigned_point {ds : List Char} {places : Nat} (h : ∀ c ∈ ds, c.isDigit = true)
    (hlen : places < ds.length) :
    IsUnsigned (ds.take (ds.length - places) ++ '.' :: ds.drop (ds.length - places)) := by
  have hwhole : IsUnsigned (ds.take (ds.length - places)) := by
    refine .of_digits ?_ fun c hc => h c (List.mem_of_mem_take hc)
    rw [ne_eq, List.take_eq_nil_iff]
    rintro (h0 | rfl)
    · omega
    · simp at hlen
  have hfraction : SignedDigits (ds.drop (ds.length - places)) :=
    .of_digits fun c hc => h c (List.mem_of_mem_drop hc)
  exact hwhole.append (.plain (.inr (.inl rfl)) hfraction)

end Text

open Text

/-! ## decimals and doubles -/

theorem Decimal.isNumeral_text (d : Decimal) : IsNumeral d.text.toList := by
  have hlen := length_padded (d.scale + 1) d.magnitude
  have hdigit := fun c (h : c ∈ (padded (d.scale + 1) d.magnitude).toList) =>
    isDigit_of_mem_padded h
  rw [text, signText]
  simp only [String.toList_append, String.toList_ofList, ← String.length_toList,
    List.append_assoc]
  refine IsUnsigned.withSign ?_ d.negative
  split
  next h =>
    rw [h, Nat.sub_zero, List.take_length, String.toList_empty, List.append_nil]
    rw [h] at hlen hdigit
    exact .of_digits (List.ne_nil_of_length_pos hlen) hdigit
  next h =>
    simp only [String.toList_append, String.toList_ofList]
    exact isUnsigned_point hdigit hlen

namespace Double

theorem isUnsigned_positional (v : Scientific) : IsUnsigned (positional v).toList := by
  have hdigit := fun c (h : c ∈ Nat.toDigits 10 v.digits) => isDigit_of_mem_digits h
  have hzero : ∀ n, ∀ c ∈ List.replicate n '0', c.isDigit = true := by
    intro n c hc
    rw [List.eq_of_mem_replicate hc]
    decide
  rw [positional]
  split
  · rw [String.toList_ofList]
    exact (isUnsigned_digits _).append (.of_digits (hzero _))
  · simp only [String.toList_append, String.toList_ofList, List.append_assoc]
    refine isUnsigned_point ?_ ?_
    · intro c hc
      obtain hc | hc := List.mem_append.1 hc
      · exact hzero _ c hc
      · exact hdigit c hc
    · rw [List.length_append, List.length_replicate]
      omega

theorem isUnsigned_exponential (v : Scientific) : IsUnsigned (exponential v).toList := by
  have hexponent : ∀ n : Int, SignedDigits ('e' :: (toString n).toList) := fun n =>
    .plain (.inr (.inr rfl)) (isNumeral_int n).signedDigits
  have hdigits := isUnsigned_digits v.digits
  rw [exponential]
  simp only [String.toList_append, List.append_assoc]
  refine IsUnsigned.append ?_ (hexponent _)
  split
  next d r rest h =>
    rw [h] at hdigits
    obtain ⟨_, _, he, hd, hrest⟩ := hdigits
    cases he
    rw [String.toList_ofList]
    exact ⟨d, _, rfl, hd, .plain (.inr (.inl rfl)) hrest⟩
  next =>
    rw [String.toList_ofList]
    exact hdigits

theorem isNumeral_text {x : Double} (h : x.isFinite = true) : IsNumeral x.text.toList := by
  cases x with
  | nan => contradiction
  | infinity negative => contradiction
  | finite negative m q =>
    have hzero : SignedDigits ".0".toList :=
      .plain (.inr (.inl rfl)) (.of_digits (List.forall_mem_singleton.2 rfl))
    rw [text]
    split
    · rw [signText, String.toList_append]
      exact IsUnsigned.withSign ⟨'0', _, rfl, rfl, hzero⟩ negative
    · simp only [signText, String.toList_append]
      refine IsUnsigned.withSign ?_ negative
      split
      · rw [String.toList_append]
        refine (isUnsigned_positional _).append ?_
        split
        · exact hzero
        · exact .nil
      · exact isUnsigned_exponential _

end Double

/-! ## days and points in time -/

namespace Text

/-- A text that stands between quotes as it is: it has no quote and no backslash. -/
def Verbatim (s : String) : Prop :=
  '\'' ∉ s.toList ∧ '\\' ∉ s.toList

instance (s : String) : Decidable (Verbatim s) :=
  inferInstanceAs (Decidable (_ ∧ _))

theorem Verbatim.append {a b : String} (ha : Verbatim a) (hb : Verbatim b) :
    Verbatim (a ++ b) := by
  simp [Verbatim, ha.1, ha.2, hb.1, hb.2]

theorem stringLiteral_of_verbatim {s : String} (h : Verbatim s) :
    stringLiteral s = "'" ++ s ++ "'" := by
  apply String.toList_inj.1
  simp [stringLiteral, enclose, double_of_notMem h.1]

theorem verbatim_padded (width n : Nat) : Verbatim (padded width n) :=
  ⟨fun h => absurd (isDigit_of_mem_padded h) (by decide),
    fun h => absurd (isDigit_of_mem_padded h) (by decide)⟩

end Text

theorem Date.verbatim_text (d : Date) : Verbatim d.text := by
  have hdash : Verbatim "-" := by decide
  have hyear : Verbatim (yearText d.year) := by
    rw [yearText]
    split
    · exact verbatim_padded 4 _
    · refine .append ?_ (verbatim_padded 4 _)
      split <;> decide
  rw [text]
  exact (((hyear.append hdash).append (verbatim_padded 2 _)).append hdash).append
    (verbatim_padded 2 _)

theorem Timestamp.verbatim_text (t : Timestamp) : Verbatim t.millisecondText := by
  have hblank : Verbatim " " := by decide
  have hcolon : Verbatim ":" := by decide
  have hpoint : Verbatim "." := by decide
  have hclock : Verbatim t.clockText := by
    rw [clockText]
    exact ((((verbatim_padded 2 _).append hcolon).append (verbatim_padded 2 _)).append
      hcolon).append (verbatim_padded 2 _)
  rw [millisecondText]
  exact (((t.date.verbatim_text.append hblank).append hclock).append hpoint).append
    (verbatim_padded 3 _)

end RemoteQuery
