import RemoteQuery.Calls.DateArithmetic
import RemoteQuery.Calls.Text
import RemoteQuery.Proofs.Surface

/-!
# RemoteQuery.Proofs.Forms

The forms of calls that dialects choose from are templates: each is assembled
from its arguments, and holds them together.
-/

namespace RemoteQuery

variable {Given : String → Prop} {args : List String}

namespace Calls

open Assembled

theorem delimited_call {name : String} (hname : isName name = true)
    (h : ∀ a ∈ args, Assembled Given a) : Delimited Given (call name args) :=
  .named hname (of_pieces [.parts ", " args] rfl rfl (by simpa [Piece.contents] using h))

theorem assembled_call {name : String} (hname : isName name = true)
    (h : ∀ a ∈ args, Assembled Given a) : Assembled Given (call name args) :=
  (delimited_call hname h).assembled

theorem delimited_operatorChain {op : String}
    (hop : Piece.delimits [.fixed "(", .parts (" " ++ op ++ " ") args, .fixed ")"] = true)
    (h : ∀ a ∈ args, Assembled Given a) : Delimited Given (operatorChain op args) :=
  .of_pieces [.fixed "(", .parts (" " ++ op ++ " ") args, .fixed ")"] hop rfl
    (by simpa [Piece.contents] using h)

theorem delimited_negate (h : ∀ a ∈ args, Assembled Given a) : Delimited Given (negate args) :=
  .of_pieces [.fixed "-(", .parts ", " args, .fixed ")"] rfl rfl
    (by simpa [Piece.contents] using h)

theorem delimited_cast {sql type : String} (hsql : Assembled Given sql)
    (htype : Assembled Given type) : Delimited Given (cast sql type) :=
  .of_pieces [.fixed "CAST(", .part sql, .fixed " AS ", .part type, .fixed ")"] rfl rfl
    (by simp [Piece.contents, hsql, htype])

theorem assembled_cast {sql type : String} (hsql : Assembled Given sql)
    (htype : Assembled Given type) : Assembled Given (cast sql type) :=
  (delimited_cast hsql htype).assembled

theorem delimited_extractField {field : String} (hfield : Assembled Given field)
    (h : ∀ a ∈ args, Assembled Given a) : Delimited Given (extractField field args) :=
  .of_pieces [.fixed "EXTRACT(", .part field, .fixed " FROM ", .parts ", " args, .fixed ")"] rfl rfl
    (by simpa [Piece.contents, hfield] using h)

theorem delimited_trimBoth (h : ∀ a ∈ args, Assembled Given a) :
    Delimited Given (trimBoth args) := by
  unfold trimBoth
  split
  next value chars =>
    exact .of_pieces [.fixed "TRIM(", .part chars, .fixed " FROM ", .part value, .fixed ")"] rfl rfl
      (by simpa [Piece.contents, and_comm] using h)
  next => exact delimited_call rfl h

theorem delimited_trimOneSide {name side : String} (hname : isName name = true)
    (hside : Assembled Given side) (h : ∀ a ∈ args, Assembled Given a) :
    Delimited Given (trimOneSide name side args) := by
  unfold trimOneSide
  split
  next value chars =>
    exact .of_pieces [.fixed "TRIM(", .part side, .fixed " ", .part chars, .fixed " FROM ",
      .part value, .fixed ")"] rfl rfl (by simpa [Piece.contents, hside, and_comm] using h)
  next => exact delimited_call hname h

theorem assembled_textArguments {convert : String → String}
    (hconvert : ∀ a, Assembled Given a → Assembled Given (convert a))
    (h : ∀ a ∈ args, Assembled Given a) :
    ∀ a ∈ textArguments convert args, Assembled Given a := by
  intro a ha
  obtain ⟨arg, harg, rfl⟩ := List.mem_map.1 ha
  split
  · exact h arg harg
  · exact hconvert arg (h arg harg)

theorem delimited_defaultedCall {name default : String} {arity : Nat}
    (hname : isName name = true) (hdefault : Assembled Given default)
    (h : ∀ a ∈ args, Assembled Given a) :
    Delimited Given (defaultedCall name args arity default) := by
  refine delimited_call hname ?_
  split
  · intro a ha
    obtain ha | ha := List.mem_append.1 ha
    · exact h a ha
    · rw [List.mem_singleton.1 ha]
      exact hdefault
  · exact h

theorem delimited_reversedCall {name : String} (hname : isName name = true)
    (h : ∀ a ∈ args, Assembled Given a) : Delimited Given (reversedCall name args) := by
  unfold reversedCall
  split
  · exact delimited_call hname (by simpa [and_comm] using h)
  · exact delimited_call hname h

theorem delimited_floorQuotient {type : String} {floorDivisor : Bool}
    (htype : Assembled Given type) (h : ∀ a ∈ args, Assembled Given a) :
    Delimited Given (floorQuotient type floorDivisor args) := by
  unfold floorQuotient
  split
  next a b =>
    obtain ⟨ha, hb⟩ : Assembled Given a ∧ Assembled Given b := by simpa using h
    have hdivisor : Assembled Given (if floorDivisor then "FLOOR(" ++ b ++ ")" else b) := by
      cases floorDivisor with
      | true =>
        exact of_pieces [.fixed "FLOOR(", .part b, .fixed ")"] rfl rfl
          (by simp [Piece.contents, hb])
      | false => exact hb
    refine .of_pieces [.fixed "CAST(FLOOR(", .part a, .fixed " / ", .part _, .fixed ") AS ",
      .part type, .fixed ")"] rfl rfl ?_
    simp only [Piece.contents, List.forall_mem_cons]
    exact ⟨ha, hdivisor, htype, by simp⟩
  next => exact delimited_call rfl h

/-! ## dates -/

theorem isDigit_of_digits? {cs : List Char} {n : Nat} (h : Text.digits? cs = some n) :
    ∀ c ∈ cs, c.isDigit = true := by
  rw [Text.digits?] at h
  split at h
  next hall => exact List.all_eq_true.1 hall.2
  next => cases h

/-- An integer literal consists of digits and a sign. -/
theorem isDigit_or_sign_of_isIntegerLiteral {sql : String} (h : isIntegerLiteral sql = true) :
    ∀ c ∈ sql.toList, c.isDigit = true ∨ c = '-' := by
  obtain ⟨n, hn⟩ := Option.isSome_iff_exists.1 h
  rw [integerLiteral?] at hn
  split at hn
  next ds hds =>
    obtain ⟨k, hk, -⟩ := Option.map_eq_some_iff.1 hn
    obtain ⟨j, hj, -⟩ := Option.bind_eq_some_iff.1 hk
    rw [hds]
    exact List.forall_mem_cons.2 ⟨.inr rfl, fun c hc => .inl (isDigit_of_digits? hj c hc)⟩
  next =>
    obtain ⟨k, hk, -⟩ := Option.map_eq_some_iff.1 hn
    obtain ⟨j, hj, -⟩ := Option.bind_eq_some_iff.1 hk
    exact fun c hc => .inl (isDigit_of_digits? hj c hc)

/-- A text with any other character is no integer literal. -/
theorem isIntegerLiteral_eq_false {sql : String} (c : Char) (hc : c ∈ sql.toList)
    (hother : c.isDigit = false ∧ c ≠ '-') : isIntegerLiteral sql = false := by
  rw [← Bool.not_eq_true]
  intro h
  obtain hdigit | hsign := isDigit_or_sign_of_isIntegerLiteral h c hc
  · rw [hother.1] at hdigit
    cases hdigit
  · exact hother.2 hsign

theorem verbatim_of_isIntegerLiteral {sql : String} (h : isIntegerLiteral sql = true) :
    Text.Verbatim sql :=
  ⟨fun hc => absurd (isDigit_or_sign_of_isIntegerLiteral h '\'' hc) (by decide),
    fun hc => absurd (isDigit_or_sign_of_isIntegerLiteral h '\\' hc) (by decide)⟩

theorem assembled_int (n : Int) : Assembled Given (toString n) :=
  .numeral (Text.isNumeral_int n)

theorem assembled_multiplied (factor : Int) {amount : String} (h : Assembled Given amount) :
    Assembled Given (multiplied factor amount) := by
  have hproduct : Assembled Given ("(" ++ toString factor ++ " * " ++ amount ++ ")") := by
    refine of_pieces [.fixed "(", .part (toString factor), .fixed " * ", .part amount, .fixed ")"]
      rfl rfl ?_
    simp only [Piece.contents, List.forall_mem_cons]
    exact ⟨assembled_int factor, h, by simp⟩
  unfold multiplied
  split
  next n _ =>
    split
    · exact assembled_int _
    · exact hproduct
  next => exact hproduct

theorem assembled_keyword (unit : DateUnit) : Assembled Given unit.keyword := by
  cases unit <;> exact word rfl

namespace DateAdd

variable {a : DateAdd}

theorem mem_of_ofCall? {f : ScalarFunction} (h : ofCall? f args = some a) :
    a.value ∈ args ∧ a.amount ∈ args := by
  unfold ofCall? at h
  split at h
  next value amount =>
    obtain ⟨unit, -, rfl⟩ := Option.map_eq_some_iff.1 h
    simp
  next => cases h

theorem assembled_withoutWeeks (h : Assembled Given a.amount) :
    Assembled Given a.withoutWeeks.2 := by
  unfold withoutWeeks
  split
  · exact assembled_multiplied 7 h
  · exact h

/-- The amount of a labeled duration. -/
def labeledAmount (a : DateAdd) : String :=
  let amount := a.withoutWeeks.2
  if isIntegerLiteral amount ∨ amount.toList.head? = some '(' then amount else "(" ++ amount ++ ")"

theorem durationSum_eq (a : DateAdd) :
    a.durationSum = "(" ++ a.value ++ " + " ++ a.labeledAmount ++ " " ++
      a.withoutWeeks.1.keyword ++ "S)" :=
  rfl

theorem assembled_labeledAmount (h : Assembled Given a.amount) :
    Assembled Given a.labeledAmount := by
  have hamount := assembled_withoutWeeks h
  unfold labeledAmount
  dsimp only
  split
  · exact hamount
  · exact of_pieces [.fixed "(", .part a.withoutWeeks.2, .fixed ")"] rfl rfl
      (by simpa [Piece.contents] using hamount)

theorem delimited_durationSum (hvalue : Assembled Given a.value)
    (hamount : Assembled Given a.amount) : Delimited Given a.durationSum := by
  refine .of_pieces [.fixed "(", .part a.value, .fixed " + ", .part a.labeledAmount, .fixed " ",
    .part a.withoutWeeks.1.keyword, .fixed "S)"] rfl rfl ?_
  simp only [Piece.contents, List.forall_mem_cons]
  exact ⟨hvalue, assembled_labeledAmount hamount, assembled_keyword _, by simp⟩

theorem delimited_unitFirstCall {name : String} (hname : isName name = true)
    (hvalue : Assembled Given a.value) (hamount : Assembled Given a.amount) :
    Delimited Given (a.unitFirstCall name) :=
  delimited_call hname (by simp [assembled_keyword, hvalue, hamount])

theorem delimited_unitTextCall {name : String} (hname : isName name = true)
    (hvalue : Assembled Given a.value) (hamount : Assembled Given a.amount) :
    Delimited Given (a.unitTextCall name) := by
  have hunit : Assembled Given ("'" ++ a.unit.keyword.toLower ++ "'") := by
    refine .quoted ?_
    cases a.unit <;> decide +kernel
  exact delimited_call hname (by simp [hunit, hvalue, hamount])

theorem delimited_intervalCall {name : String} (hname : isName name = true)
    (hvalue : Assembled Given a.value) (hamount : Assembled Given a.amount) :
    Delimited Given (a.intervalCall name) := by
  have hinterval : Assembled Given ("INTERVAL " ++ a.amount ++ " " ++ a.unit.keyword) :=
    of_pieces [.fixed "INTERVAL ", .part a.amount, .fixed " ", .part a.unit.keyword] rfl rfl
      (by simp [Piece.contents, assembled_keyword, hamount])
  exact delimited_call hname (by simp [hinterval, hvalue])

theorem delimited_intervalLiteral {precision : String}
    (hprecision : ∀ n keyword, Piece.closed [.fixed "INTERVAL '", .quoted n, .fixed "' ",
      .part keyword, .fixed precision] = true)
    (hvalue : Assembled Given a.value) (hamount : Assembled Given a.amount) :
    Delimited Given (a.intervalLiteral precision) := by
  have hamount := assembled_withoutWeeks hamount
  unfold intervalLiteral
  generalize a.withoutWeeks = weeks at hamount ⊢
  obtain ⟨unit, amount⟩ := weeks
  have hinterval : ∀ n : String, Text.Verbatim n →
      Assembled Given ("INTERVAL '" ++ n ++ "' " ++ unit.keyword ++ precision) := by
    intro n hn
    refine .template [.fixed "INTERVAL '", .quoted n, .fixed "' ", .part unit.keyword,
      .fixed precision] (hprecision n _) ?_ ?_
    · simp [Piece.contents, assembled_keyword]
    · simpa [Piece.inner] using hn
  dsimp only
  split
  next hint =>
    refine .of_pieces [.fixed "(", .part a.value, .fixed " + ", .part _, .fixed ")"] rfl rfl ?_
    simp only [Piece.contents, List.forall_mem_cons]
    exact ⟨hvalue, hinterval amount (verbatim_of_isIntegerLiteral hint), by simp⟩
  next =>
    refine .of_pieces [.fixed "(", .part a.value, .fixed " + ", .part amount, .fixed " * ", .part _,
      .fixed ")"] rfl rfl ?_
    simp only [Piece.contents, List.forall_mem_cons]
    exact ⟨hvalue, hamount, hinterval "1" (by decide), by simp⟩

end DateAdd

/-- A call that adds to a date holds together as its form does. -/
theorem delimited_dateAdd {f : ScalarFunction} {form : DateAdd → String} {out : String}
    (hargs : ∀ a ∈ args, Assembled Given a)
    (hform : ∀ a : DateAdd, Assembled Given a.value → Assembled Given a.amount →
      Delimited Given (form a))
    (h : (DateAdd.ofCall? f args).map form = some out) : Delimited Given out := by
  obtain ⟨a, ha, rfl⟩ := Option.map_eq_some_iff.1 h
  obtain ⟨hvalue, hamount⟩ := DateAdd.mem_of_ofCall? ha
  exact hform a (hargs _ hvalue) (hargs _ hamount)

end Calls

/-! ## aggregates -/

namespace AggregateText

open Assembled

/-- The written arguments, ordering keys and separator of an aggregate are assembled. -/
structure PartsAssembled (Given : String → Prop) (c : AggregateText) : Prop where
  args : ∀ a ∈ c.args, Assembled Given a
  orderBy : ∀ o, c.orderBy = some o → Assembled Given o
  separator : ∀ s, c.function = .groupConcat → c.separator = some s →
    Assembled Given (Text.stringLiteral s)

/-- What is decided with and without the keyword is decided. -/
theorem distinctWord_cases (c : AggregateText) (holds : String → Bool)
    (hdistinct : holds "DISTINCT " = true) (hall : holds "" = true) :
    holds c.distinctWord = true := by
  unfold distinctWord
  split
  · exact hdistinct
  · exact hall

variable {c : AggregateText}

namespace PartsAssembled

variable (h : c.PartsAssembled Given)
include h

theorem arg : Assembled Given c.arg := by
  unfold AggregateText.arg
  cases hargs : c.args with
  | nil => exact word rfl
  | cons a args => exact h.args a (by rw [hargs]; exact List.mem_cons_self)

theorem orderOrSelf : Assembled Given c.orderOrSelf := by
  unfold AggregateText.orderOrSelf
  cases horder : c.orderBy with
  | none => exact h.arg
  | some o => exact h.orderBy o horder

theorem separatorLiteral (hf : c.function = .groupConcat) :
    Assembled Given c.separatorLiteral := by
  unfold AggregateText.separatorLiteral
  cases hseparator : c.separator with
  | none =>
    have hcomma : Text.Verbatim "," := by decide
    rw [Option.getD_none, Text.stringLiteral_of_verbatim hcomma]
    exact .quoted hcomma
  | some s => exact h.separator s hf hseparator

theorem listagg (hf : c.function = .groupConcat) : Delimited Given c.listagg := by
  refine .of_pieces [.fixed "LISTAGG(", .fixed c.distinctWord, .part c.arg, .fixed ", ",
    .part c.separatorLiteral, .fixed ") WITHIN GROUP (ORDER BY ", .part c.orderOrSelf, .fixed ")"]
    (c.distinctWord_cases (fun word => Piece.delimits [_, .fixed word, _, _, _, _, _, _]) rfl rfl)
    rfl ?_
  simp only [Piece.contents, List.forall_mem_cons]
  exact ⟨h.arg, h.separatorLiteral hf, h.orderOrSelf, by simp⟩

theorem separatorClause {name : String} (hname : isName name = true)
    (hf : c.function = .groupConcat) : Delimited Given (c.separatorClause name) := by
  have hbody : Assembled Given (c.distinctWord ++ c.arg ++ " ORDER BY " ++ c.orderOrSelf ++
      " SEPARATOR " ++ c.separatorLiteral) := by
    refine of_pieces [.fixed c.distinctWord, .part c.arg, .fixed " ORDER BY ", .part c.orderOrSelf,
      .fixed " SEPARATOR ", .part c.separatorLiteral]
      (c.distinctWord_cases (fun word => Piece.closed [.fixed word, _, _, _, _, _]) rfl rfl) rfl ?_
    simp only [Piece.contents, List.forall_mem_cons]
    exact ⟨h.arg, h.orderOrSelf, h.separatorLiteral hf, by simp⟩
  have hcall := Delimited.named hname hbody
  simp only [String.append_assoc] at hcall
  simpa only [AggregateText.separatorClause, String.append_assoc] using hcall

end PartsAssembled

end AggregateText

end RemoteQuery
