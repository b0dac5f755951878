import RemoteQuery.Json.Reader
import RemoteQuery.Json.Writer
import RemoteQuery.Proofs.Numerals
import RemoteQuery.Proofs.Reader
import Mathlib.Algebra.Group.Int.Defs
import Mathlib.Algebra.Group.Nat.Defs

/-!
# RemoteQuery.Proofs.JsonText

Written JSON is read back.

* `stringBody_escaped` — a text in quotes, whatever characters it has;
* `number?_int` — an integer of 64 bits;
* `Json.parse?_text` — a value without fractions that is not too deep.

The value reader is bounded by a number of steps, and every lemma about it says
how many steps the written text needs: one more than it has characters.
-/

namespace RemoteQuery.Json

/-! ## strings -/

theorem hexValue?_digitChar : ∀ d < 16, hexValue? (Nat.digitChar d) = some d := by
  decide

theorem char?_toNat (c : Char) : char? c.toNat = some c := by
  have hvalid : c.toNat.isValidChar := c.valid
  rw [char?, dif_pos hvalid]
  rfl

/-- The digits of a control character are its code. -/
theorem hexQuad?_hexPair {n : Nat} (h : n < 0x20) :
    hexQuad? '0' '0' (Nat.digitChar (n / 16)) (Nat.digitChar (n % 16)) = some n := by
  have hzero : hexValue? '0' = some 0 := by decide
  have hhigh := hexValue?_digitChar (n / 16) (by omega)
  have hlow := hexValue?_digitChar (n % 16) (by omega)
  simp only [hexQuad?, hzero, hhigh, hlow, Option.bind_eq_bind, Option.bind_some,
    Option.pure_def, Option.some.injEq]
  omega

/-- The letter of a character stands for it after a backslash, and none of them begins a code. -/
theorem shortEscape?_of_shortLetter? {c letter : Char} (h : shortLetter? c = some letter) :
    shortEscape? letter = some c ∧ letter ≠ 'u' := by
  unfold shortLetter? at h
  split at h <;> cases h <;> exact ⟨rfl, by decide⟩

/-- A character that is written as it is ends no text and begins no escape. -/
theorem plain_of_shortLetter? {c : Char} (h : shortLetter? c = none) : c ≠ '"' ∧ c ≠ '\\' := by
  constructor <;> rintro rfl <;> exact absurd h (by decide)

/-- One character, however it is written, is read as that character. -/
theorem stringBody_escapeChar (c : Char) (rest : List Char) :
    stringBody (escapeChar c ++ rest) = (stringBody rest).map fun p => (c :: p.1, p.2) := by
  have hmap : (stringBody rest).map (fun p => (c :: p.1, p.2)) =
      (stringBody rest).bind fun p => some (c :: p.1, p.2) := by
    cases stringBody rest <;> rfl
  unfold escapeChar
  split
  next letter h =>
    obtain ⟨hescape, hu⟩ := shortEscape?_of_shortLetter? h
    rw [List.cons_append, List.cons_append, List.nil_append,
      stringBody.eq_4 _ _ fun _ _ _ _ _ he _ => hu he, hescape]
    exact hmap.symm
  next h =>
    obtain ⟨hquote, hslash⟩ := plain_of_shortLetter? h
    by_cases hcontrol : c.toNat < 0x20
    · rw [if_pos hcontrol]
      simp only [hexPair, List.cons_append, List.nil_append]
      rw [stringBody.eq_3, hexQuad?_hexPair hcontrol]
      simp only [show ¬(0xD800 ≤ c.toNat ∧ c.toNat < 0xDC00) by omega, if_false, char?_toNat]
      exact hmap.symm
    · rw [if_neg hcontrol, List.singleton_append, stringBody.eq_5 c rest hquote
        (fun _ _ _ _ _ he _ => hslash he) (fun _ _ he _ => hslash he),
        if_neg (by simp [hcontrol, hslash])]
      exact hmap.symm

/-- A text in quotes is read back up to the closing quote. -/
theorem stringBody_escaped (s rest : List Char) :
    stringBody (s.flatMap escapeChar ++ '"' :: rest) = some (s, rest) := by
  induction s with
  | nil => rfl
  | cons c s ih =>
    rw [List.flatMap_cons, List.append_assoc, stringBody_escapeChar, ih]
    rfl

/-! ## numbers -/

/-- A text that does not go on with a character of a number. -/
def EndsNumber (rest : List Char) : Prop :=
  rest.head?.all (fun c => !isNumberChar c) = true

theorem endsNumber_cons {c : Char} {rest : List Char} (h : isNumberChar c = false) :
    EndsNumber (c :: rest) := by
  simp [EndsNumber, h]

theorem isNumberChar_of_isDigit {c : Char} (h : c.isDigit = true) : isNumberChar c = true := by
  simp [isNumberChar, h]

/-- Only zero has digits that start with a zero. -/
theorem eq_zero_of_head?_toDigits {n : Nat} (h : (Nat.toDigits 10 n).head? = some '0') :
    n = 0 := by
  induction n using Nat.strongRecOn with
  | ind n ih =>
    rw [Nat.toDigits_eq_if (by decide)] at h
    by_cases hn : n < 10
    · rw [if_pos hn] at h
      have hzero : ∀ d < 10, [Nat.digitChar d].head? = some '0' → d = 0 := by decide
      exact hzero n hn h
    · rw [if_neg hn, List.head?_append_of_ne_nil _ Nat.toDigits_ne_nil] at h
      have hhigh := ih (n / 10) (by omega) h
      omega

/-- The digits of a number are the shape of an integer. -/
theorem numberShape?_toDigits (n : Nat) :
    numberShape? (Nat.toDigits 10 n) = some (Nat.toDigits 10 n, false) := by
  have hspan : (Nat.toDigits 10 n ++ []).span Char.isDigit = (Nat.toDigits 10 n, []) :=
    Reader.span_append (fun c hc => Text.isDigit_of_mem_digits hc) rfl
  rw [List.append_nil, List.span_eq_takeWhile_dropWhile, Prod.mk.injEq] at hspan
  have hwhole : Nat.toDigits 10 n ≠ [] ∧
      ((Nat.toDigits 10 n).head? = some '0' → (Nat.toDigits 10 n).length = 1) := by
    refine ⟨Nat.toDigits_ne_nil, fun h => ?_⟩
    rw [eq_zero_of_head?_toDigits h]
    rfl
  unfold numberShape?
  simp only [hspan.1, hspan.2]
  rw [if_pos ⟨hwhole, trivial, trivial⟩]
  rfl

theorem number?_toDigits {n : Nat} (h : n < UInt64.size) :
    number? (Nat.toDigits 10 n) = some (int n) := by
  unfold number?
  split
  next negative body hsplit =>
    have hbody : (false, Nat.toDigits 10 n) = (negative, body) := by
      rw [← hsplit]
      split
      next r he =>
        have hmem : '-' ∈ Nat.toDigits 10 n := he ▸ List.mem_cons_self
        exact absurd (Text.isDigit_of_mem_digits hmem) (by decide)
      next => rfl
    cases hbody
    simp [numberShape?_toDigits, Nat.ofDigitChars_toDigits, h]

theorem number?_negative {n : Nat} (hpos : n ≠ 0) (h : n ≤ 2 ^ 63) :
    number? ('-' :: Nat.toDigits 10 n) = some (int (-(n : Int))) := by
  have hmin : n ≤ Int64.minValue.toInt.natAbs := h
  unfold number?
  simp only [numberShape?_toDigits, Option.bind_eq_bind, Option.bind_some,
    Nat.ofDigitChars_ten_toDigits]
  rw [if_neg (by simp), if_pos (by simp only [hpos, hmin, ne_eq, not_false_eq_true]; rfl)]
  rfl

/-- The integers that have 64 bits, with a sign or without. -/
def FitsWord (n : Int) : Prop :=
  Int64.minValue.toInt ≤ n ∧ n < UInt64.size

/-- A written integer of 64 bits is read back. -/
theorem number?_int {n : Int} (h : FitsWord n) : number? (toString n).toList = some (int n) := by
  obtain ⟨hleast, hmost⟩ := h
  rw [Int.toString_eq_repr, Int.repr_eq_if]
  by_cases hsign : 0 ≤ n
  · rw [if_pos hsign, Nat.toList_repr, number?_toDigits (by omega), Int.toNat_of_nonneg hsign]
  · rw [if_neg hsign, String.toList_append, Nat.toList_repr]
    have hmin : Int64.minValue.toInt = -(2 ^ 63) := rfl
    have hback : -((-n).toNat : Int) = n := by omega
    have hread := number?_negative (n := (-n).toNat) (by omega) (by omega)
    rw [hback] at hread
    exact hread

/-! ## values -/

/-- The values that are written without loss: no fractions, and integers of 64 bits. -/
inductive Exact : Json → Prop
  | null : Exact null
  | bool (b : Bool) : Exact (bool b)
  | int {n : Int} (h : FitsWord n) : Exact (int n)
  | string (s : String) : Exact (string s)
  | array {items : List Json} (h : ∀ j ∈ items, Exact j) : Exact (array items)
  | object {fields : List (String × Json)} (h : ∀ f ∈ fields, Exact f.2) : Exact (object fields)

@[simp] theorem exact_null : null.Exact := .null

@[simp] theorem exact_bool (b : Bool) : (bool b).Exact := .bool b

@[simp] theorem exact_string (s : String) : (string s).Exact := .string s

@[simp] theorem exact_array {items : List Json} : (array items).Exact ↔ ∀ j ∈ items, j.Exact :=
  ⟨fun h => by cases h; assumption, .array⟩

@[simp] theorem exact_object {fields : List (String × Json)} :
    (object fields).Exact ↔ ∀ f ∈ fields, f.2.Exact :=
  ⟨fun h => by cases h; assumption, .object⟩

/-- The characters of a written value. -/
def chars (j : Json) : List Char :=
  j.text.toList

/-- The characters of a text in quotes, with the quotes. -/
def quoted (s : String) : List Char :=
  '"' :: s.toList.flatMap escapeChar ++ ['"']

/-- A field of an object as it is written. -/
def fieldChars (f : String × Json) : List Char :=
  quoted f.1 ++ ':' :: f.2.chars

theorem itemTexts_eq_map (js : List Json) : itemTexts js = js.map text := by
  induction js with
  | nil => rfl
  | cons j js ih => rw [itemTexts, ih, List.map_cons]

theorem fieldTexts_eq_map (fs : List (String × Json)) :
    fieldTexts fs = fs.map fun f => quote f.1 ++ ":" ++ text f.2 := by
  induction fs with
  | nil => rfl
  | cons f fs ih => rw [fieldTexts, ih, List.map_cons]

theorem chars_string (s : String) : (string s).chars = quoted s := by
  rw [chars, text, quote, quoted, String.toList_ofList]

theorem chars_array (js : List Json) :
    (array js).chars = '[' :: [','].intercalate (js.map chars) ++ [']'] := by
  simp only [chars, text, itemTexts_eq_map, String.toList_append, String.toList_intercalate,
    List.map_map]
  rfl

theorem chars_object (fs : List (String × Json)) :
    (object fs).chars =
      '\x7b' :: [','].intercalate (fs.map fieldChars) ++ ['\x7d'] := by
  have hfield : String.toList ∘ (fun f : String × Json => quote f.1 ++ ":" ++ text f.2) =
      fieldChars := by
    funext f
    simp [fieldChars, quote, quoted, chars]
  simp only [chars, text, fieldTexts_eq_map, String.toList_append, String.toList_intercalate,
    List.map_map, hfield]
  rfl

/-- A written integer starts with a character of a number, and consists of them. -/
theorem chars_int (n : Int) :
    (∀ c ∈ (int n).chars, isNumberChar c = true) ∧
      ∃ c cs, (int n).chars = c :: cs ∧ (c.isDigit = true ∨ c = '-') := by
  have hnumeral : Text.IsNumeral (int n).chars := Text.isNumeral_int n
  constructor
  · intro c hc
    obtain hdigit | hmark := hnumeral.signedDigits.digit_or_mark c hc
    · exact isNumberChar_of_isDigit hdigit
    · simp only [List.mem_cons, List.not_mem_nil, or_false] at hmark
      obtain rfl | rfl | rfl := hmark <;> decide
  · obtain ⟨c, cs, he, hc, -⟩ | ⟨cs, he, -⟩ := hnumeral
    · exact ⟨c, cs, he, .inl hc⟩
    · exact ⟨'-', cs, he, .inr rfl⟩

/-- The characters that start a number start nothing else. -/
theorem apart_of_number {c : Char} (h : c.isDigit = true ∨ c = '-') :
    isSpace c = false ∧ c ∉ [']', 'n', 't', 'f', '"', '[', '\x7b'] := by
  obtain h | rfl := h
  · constructor
    · by_contra hspace
      simp only [isSpace, Bool.not_eq_false, Bool.or_eq_true, decide_eq_true_eq] at hspace
      obtain ((rfl | rfl) | rfl) | rfl := hspace <;> exact absurd h (by decide)
    · intro hmem
      simp only [List.mem_cons, List.not_mem_nil, or_false] at hmem
      obtain rfl | rfl | rfl | rfl | rfl | rfl | rfl := hmem <;> exact absurd h (by decide)
  · decide

/-- A written value starts with a character that is no blank and closes no array. -/
theorem Exact.chars_eq_cons {j : Json} (h : j.Exact) :
    ∃ c cs, j.chars = c :: cs ∧ isSpace c = false ∧ c ≠ ']' := by
  cases h with
  | null => exact ⟨'n', _, rfl, by decide, by decide⟩
  | bool b => cases b with
    | true => exact ⟨'t', _, rfl, by decide, by decide⟩
    | false => exact ⟨'f', _, rfl, by decide, by decide⟩
  | @int n =>
    obtain ⟨c, cs, he, hc⟩ := (chars_int n).2
    obtain ⟨hspace, hother⟩ := apart_of_number hc
    exact ⟨c, cs, he, hspace, fun h => hother (h ▸ List.mem_cons_self)⟩
  | string s => exact ⟨'"', _, chars_string s, by decide, by decide⟩
  | array h => exact ⟨'[', _, chars_array _, by decide, by decide⟩
  | object h => exact ⟨'\x7b', _, chars_object _, by decide, by decide⟩

theorem skipSpace_cons {c : Char} {cs : List Char} (h : isSpace c = false) :
    skipSpace (c :: cs) = c :: cs := by
  rw [skipSpace, List.dropWhile_cons_of_neg (by simp [h])]

/-- A written value is read back from the front of a text, within as many steps as it has
characters and one. -/
def ReadsBack (j : Json) : Prop :=
  ∀ fuel rest, j.chars.length ≤ fuel → EndsNumber rest →
    value (fuel + 1) (j.chars ++ rest) = some (j, rest)

theorem readsBack_null : ReadsBack null :=
  fun _ _ _ _ => rfl

theorem readsBack_bool (b : Bool) : ReadsBack (bool b) := by
  intro fuel rest _ _
  cases b <;> rfl

theorem readsBack_string (s : String) : ReadsBack (string s) := by
  intro fuel rest _ _
  have hbody := stringBody_escaped s.toList rest
  rw [chars_string, quoted, List.append_assoc, List.cons_append, List.singleton_append]
  simp [value, skipSpace, isSpace, hbody]

theorem readsBack_int {n : Int} (h : FitsWord n) : ReadsBack (int n) := by
  intro fuel rest _ hrest
  obtain ⟨hchars, c, cs, hcons, hc⟩ := chars_int n
  obtain ⟨hspace, hother⟩ := apart_of_number hc
  have hspan := Reader.span_append hchars hrest
  rw [List.span_eq_takeWhile_dropWhile, Prod.mk.injEq] at hspan
  simp only [List.mem_cons, List.not_mem_nil, or_false, not_or] at hother
  have hread : value (fuel + 1) ((int n).chars ++ rest) =
      (number? (((int n).chars ++ rest).takeWhile isNumberChar)).map fun j =>
        (j, ((int n).chars ++ rest).dropWhile isNumberChar) := by
    rw [hcons, List.cons_append, value, skipSpace_cons hspace]
    simp [hother]
  rw [hread, hspan.1, hspan.2]
  exact congrArg (Option.map fun j => (j, rest)) (number?_int h)

/-- A list starts with its first item. -/
theorem intercalate_eq_cons (separator : List Char) (c : Char) (cs : List Char)
    (texts : List (List Char)) :
    ∃ tail, separator.intercalate ((c :: cs) :: texts) = c :: tail := by
  cases texts with
  | nil => exact ⟨cs, List.intercalate_singleton⟩
  | cons text texts => exact ⟨_, List.intercalate_cons_cons⟩

/-- The items of an array are read back up to the closing bracket. -/
theorem items_append {js : List Json} (hne : js ≠ []) (h : ∀ j ∈ js, ReadsBack j) (fuel : Nat)
    (rest : List Char) (hfuel : ([','].intercalate (js.map chars)).length + 1 ≤ fuel) :
    items (fuel + 1) ([','].intercalate (js.map chars) ++ ']' :: rest) = some (js, rest) := by
  induction js generalizing fuel with
  | nil => exact absurd rfl hne
  | cons j js ih =>
    rw [List.forall_mem_cons] at h
    obtain ⟨fuel, rfl⟩ : ∃ m, fuel = m + 1 := ⟨fuel - 1, by omega⟩
    cases js with
    | nil =>
      rw [List.map_singleton, List.intercalate_singleton] at hfuel ⊢
      rw [items, h.1 fuel (']' :: rest) (by omega) (endsNumber_cons (by decide))]
      rfl
    | cons j' js =>
      rw [List.map_cons, List.map_cons, List.intercalate_cons_cons, ← List.map_cons] at hfuel ⊢
      simp only [List.length_append, List.length_cons] at hfuel
      have htail := ih (by simp) h.2 fuel (by omega)
      rw [List.append_assoc, List.append_assoc, List.singleton_append, items,
        h.1 fuel _ (by omega) (endsNumber_cons (by decide))]
      simp only [Option.bind_eq_bind, Option.bind_some, skipSpace_cons (c := ',') (by decide),
        htail]
      rfl

theorem readsBack_array {js : List Json} (hexact : ∀ j ∈ js, j.Exact)
    (h : ∀ j ∈ js, ReadsBack j) : ReadsBack (array js) := by
  intro fuel rest hfuel _
  rw [chars_array] at hfuel ⊢
  cases js with
  | nil => rfl
  | cons j js =>
    obtain ⟨fuel, rfl⟩ : ∃ m, fuel = m + 1 := ⟨fuel - 1, by simp at hfuel; omega⟩
    have hitems := items_append (by simp) h fuel rest (by simp at hfuel ⊢; omega)
    -- The first item keeps the reader from taking the array for an empty one.
    obtain ⟨c, cs, hcons, hspace, hclose⟩ := (hexact j List.mem_cons_self).chars_eq_cons
    obtain ⟨tail, htail⟩ := intercalate_eq_cons [','] c cs (js.map chars)
    rw [List.map_cons, hcons, htail, List.cons_append] at hitems
    rw [List.map_cons, hcons, htail]
    simp only [List.cons_append, List.append_assoc, List.nil_append]
    rw [value, skipSpace_cons (by decide)]
    simp only [skipSpace_cons hspace]
    split
    next r he => exact absurd (List.cons.inj he).1 hclose
    next =>
      rw [hitems]
      rfl

/-- After one written field the reader goes on with what follows it. -/
theorem fields_step (name : String) {j : Json} (h : ReadsBack j) {fuel : Nat} {after : List Char}
    (hfuel : j.chars.length ≤ fuel) (hafter : EndsNumber after) :
    fields (fuel + 2) (fieldChars (name, j) ++ after) =
      match skipSpace after with
      | '\x7d' :: rest => some ([(name, j)], rest)
      | ',' :: rest =>
        (fields (fuel + 1) rest).bind fun p => some ((name, j) :: p.1, p.2)
      | _ => none := by
  have hname := stringBody_escaped name.toList (':' :: (j.chars ++ after))
  simp only [fieldChars, quoted, List.cons_append, List.append_assoc, List.nil_append]
  rw [fields, skipSpace_cons (by decide)]
  simp only [hname, Option.bind_eq_bind, Option.bind_some,
    skipSpace_cons (c := ':') (by decide), h fuel after hfuel hafter, String.ofList_toList]
  rfl

/-- The fields of an object are read back up to the closing brace. -/
theorem fields_append {fs : List (String × Json)} (hne : fs ≠ [])
    (h : ∀ f ∈ fs, ReadsBack f.2) (fuel : Nat) (rest : List Char)
    (hfuel : ([','].intercalate (fs.map fieldChars)).length + 1 ≤ fuel) :
    fields (fuel + 1) ([','].intercalate (fs.map fieldChars) ++ '\x7d' :: rest) =
      some (fs, rest) := by
  induction fs generalizing fuel with
  | nil => exact absurd rfl hne
  | cons f fs ih =>
    rw [List.forall_mem_cons] at h
    obtain ⟨fuel, rfl⟩ : ∃ m, fuel = m + 1 := ⟨fuel - 1, by omega⟩
    have hlen : f.2.chars.length ≤ (fieldChars f).length := by
      simp [fieldChars]
      omega
    cases fs with
    | nil =>
      rw [List.map_singleton, List.intercalate_singleton] at hfuel ⊢
      rw [fields_step f.1 h.1 (by omega) (endsNumber_cons (by decide))]
      rfl
    | cons f' fs =>
      rw [List.map_cons, List.map_cons, List.intercalate_cons_cons, ← List.map_cons] at hfuel ⊢
      simp only [List.length_append, List.length_cons] at hfuel
      have htail := ih (by simp) h.2 fuel (by omega)
      rw [List.append_assoc, List.append_assoc, List.singleton_append,
        fields_step f.1 h.1 (by omega) (endsNumber_cons (by decide)), skipSpace_cons (by decide)]
      simp only [htail, Option.bind_some]

theorem readsBack_object {fs : List (String × Json)} (h : ∀ f ∈ fs, ReadsBack f.2) :
    ReadsBack (object fs) := by
  intro fuel rest hfuel _
  rw [chars_object] at hfuel ⊢
  cases fs with
  | nil => rfl
  | cons f fs =>
    obtain ⟨fuel, rfl⟩ : ∃ m, fuel = m + 1 := ⟨fuel - 1, by simp at hfuel; omega⟩
    have hfields := fields_append (by simp) h fuel rest (by simp at hfuel ⊢; omega)
    obtain ⟨tail, htail⟩ : ∃ tail, [','].intercalate ((f :: fs).map fieldChars) = '"' :: tail :=
      intercalate_eq_cons [','] '"' _ (fs.map fieldChars)
    rw [htail, List.cons_append] at hfields
    rw [htail]
    simp only [List.cons_append, List.append_assoc, List.nil_append]
    rw [value, skipSpace_cons (by decide)]
    simp only [skipSpace_cons (c := '"') (by decide)]
    split
    next r he => exact absurd (List.cons.inj he).1 (by decide)
    next =>
      rw [hfields]
      rfl

/-- A value that is written without loss is read back from the front of a text. -/
theorem Exact.readsBack {j : Json} (h : j.Exact) : ReadsBack j := by
  induction h with
  | null => exact readsBack_null
  | bool b => exact readsBack_bool b
  | int h => exact readsBack_int h
  | string s => exact readsBack_string s
  | array h ih => exact readsBack_array h ih
  | object h ih => exact readsBack_object ih

/-- The text of a value without fractions that is not too deep is read as that value. -/
theorem parse?_text {j : Json} (h : j.Exact) (hdepth : j.depth ≤ maxDepth) :
    parse? j.text = some j := by
  have hread := h.readsBack j.text.length [] (Nat.le_of_eq String.length_toList) rfl
  rw [List.append_nil, chars] at hread
  rw [parse?, hread]
  exact if_pos ⟨rfl, hdepth⟩

end RemoteQuery.Json
