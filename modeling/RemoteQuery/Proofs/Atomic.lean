import RemoteQuery.Proofs.NoInjection

/-!
# RemoteQuery.Proofs.Atomic

The text of an operand holds together: outside of quotes and parentheses it has
no comma and no operator, so whatever is written beside it cannot take a part of
it.  Calls and literals hold together by their templates, conditions by the
parentheses around them, and a junction of one operand as that operand does.

* `operatorWords_beside` — an atomic text adds no operator to those beside it;
* `Target.calm_render` — a text that is not put in parentheses needs none;
* `Dialect.atomic_renderOperand` — operands are atomic in every dialect.
-/

namespace RemoteQuery

open Lexing Assembled

variable {style : QuoteStyle} {sql : String}

/-! ## atomic texts -/

/-- The words of a text that stand in no quotes and in no parentheses. -/
def words (style : QuoteStyle) (sql : String) : List String :=
  ((surface style sql).splitOn ' ').map String.ofList

/-- A text that nothing written beside it can take apart. -/
structure Atomic (style : QuoteStyle) (sql : String) : Prop where
  noComma : ',' ∉ surface style sql
  noOperator : ∀ op ∈ operators, op ∉ words style sql
  noNegation : ¬"NOT ".toList <+: sql.toList

/-- The operators of a text that stand in no quotes and in no parentheses, in order. -/
def operatorWords (style : QuoteStyle) (sql : String) : List String :=
  (words style sql).filter operators.contains

theorem mem_words {word : String} :
    word ∈ words style sql ↔ word.toList ∈ (surface style sql).splitOn ' ' := by
  constructor
  · intro h
    obtain ⟨cs, hcs, rfl⟩ := List.mem_map.1 h
    rwa [String.toList_ofList]
  · intro h
    exact List.mem_map.2 ⟨word.toList, h, String.ofList_toList⟩

theorem words_append {a : String} (ha : Closes style a) (b : String) :
    words style (a ++ " " ++ b) = words style a ++ words style b := by
  have hspace : surface style (" " ++ b) = ' ' :: surface style b := by
    have hopen : opened? style ' ' = none := by cases style <;> rfl
    rw [surface, String.toList_append]
    exact uncovered_plain hopen 0 b.toList
  rw [words, String.append_assoc, surface_append ha, hspace, List.splitOn_append_cons_self,
    List.map_append]
  rfl

/-- An atomic text adds no operator to those that stand beside it. -/
theorem operatorWords_beside (h : Atomic style sql) (hsql : Closes style sql) {front : String}
    (hfront : Closes style front) (back : String) :
    operatorWords style (front ++ " " ++ sql ++ " " ++ back) =
      operatorWords style front ++ operatorWords style back := by
  have hnone : (words style sql).filter operators.contains = [] := by
    refine List.filter_eq_nil_iff.2 fun word hword hop => ?_
    exact h.noOperator word (List.contains_iff_mem.1 hop) hword
  have hwords : words style (front ++ " " ++ sql ++ " " ++ back) =
      words style front ++ (words style sql ++ words style back) := by
    rw [← words_append hsql, ← words_append hfront]
    simp only [String.append_assoc]
  rw [operatorWords, hwords, List.filter_append, List.filter_append, hnone, List.nil_append]
  rfl

/-- An atomic text adds no comma to those that stand beside it. -/
theorem count_comma_beside (h : Atomic style sql) (hsql : Closes style sql) {front : String}
    (hfront : Closes style front) (back : String) :
    (surface style (front ++ sql ++ back)).count ',' =
      (surface style front).count ',' + (surface style back).count ',' := by
  rw [String.append_assoc, surface_append hfront, surface_append hsql, List.count_append,
    List.count_append, List.count_eq_zero_of_not_mem h.noComma, Nat.zero_add]

theorem atomic_of_calm (h : calm (surface style sql) = true) : Atomic style sql := by
  obtain ⟨hcomma, hcalm⟩ := calm_iff.1 h
  have hnone : ∀ word ∈ "NOT" :: operators, word ∉ words style sql := fun word hword hmem =>
    hcalm word.toList (mem_words.1 hmem) (List.mem_map_of_mem hword)
  refine ⟨hcomma, fun op hop => hnone op (List.mem_cons_of_mem _ hop), fun hnot => ?_⟩
  -- A negation would be the first word that is left.
  obtain ⟨rest, hrest⟩ := hnot
  have hsql : sql = "NOT" ++ " " ++ String.ofList rest := by
    rw [← String.toList_inj, String.toList_append, String.toList_ofList, ← hrest]
    rfl
  have hsurface : surface style "NOT" = "NOT".toList := uncovered_bare (List.all_eq_true.1 rfl)
  have hfirst : "NOT" ∈ words style "NOT" := by
    rw [mem_words, hsurface, List.splitOn_eq_singleton (by decide)]
    exact List.mem_singleton_self _
  refine hnone "NOT" List.mem_cons_self ?_
  rw [hsql, words_append (safe_word rfl).closes]
  exact List.mem_append_left _ hfirst

/-! ## columns and literals -/

/-- A quoted name leaves nothing. -/
theorem surface_quote {name : String} (h : style.Admits name) :
    surface style (style.quote name) = [] := by
  have hopen : opened? style style.opening = some (identifierQuoting style) := by
    cases style <;> rfl
  rw [surface, QuoteStyle.quote, Text.enclose, String.toList_ofList, List.cons_append,
    uncovered_opening hopen]
  cases style with
  | double => exact uncovered_double rfl 0 name.toList
  | backtick => exact uncovered_double rfl 0 name.toList
  | bracket =>
    rw [QuoteStyle.escape]
    exact uncovered_inner (h rfl) [']']

/-- Of a name only letters, digits and underscores are left. -/
theorem Profile.surface_identifierText {d : Profile} {name : String}
    (h : d.quoteStyle.Admits name) :
    ∀ c ∈ surface d.quoteStyle (d.identifierText name), c.isAlphanum = true ∨ c = '_' := by
  unfold identifierText
  split
  next hbare =>
    rw [Bool.and_eq_true] at hbare
    have hchars := CaseHandling.alphanum_of_isSimple hbare.1
    have hsurface : surface d.quoteStyle name = name.toList := by
      refine uncovered_bare fun c hc => isBare_of_isPlain ?_
      obtain hc | rfl := hchars c hc
      · exact isPlain_of_isAlphanum hc
      · rfl
    rwa [hsurface]
  next =>
    rw [quote, surface_quote h]
    exact fun c hc => absurd hc List.not_mem_nil

/-- A number is a single word. -/
theorem calm_of_isNumeral (h : Text.IsNumeral sql.toList) : calm (surface style sql) = true := by
  have hchars := h.signedDigits.digit_or_mark
  have hmarks : ∀ c ∈ ['.', 'e', '-'], isBare c = true := List.all_eq_true.1 rfl
  have hsurface : surface style sql = sql.toList := by
    refine uncovered_bare fun c hc => ?_
    obtain hc | hc := hchars c hc
    · exact isBare_of_isPlain (isPlain_of_isDigit hc)
    · exact hmarks c hc
  have hdigit : ∃ c ∈ sql.toList, c.isDigit = true := by
    obtain ⟨c, rest, heq, hc, -⟩ | ⟨_, heq, c, rest, rfl, hc, -⟩ := h
    · exact ⟨c, by simp [heq], hc⟩
    · exact ⟨c, by simp [heq], hc⟩
  obtain ⟨c, hmem, hc⟩ := hdigit
  rw [hsurface]
  refine calm_of_word (fun hspace => ?_) (fun hcomma => ?_) hmem (by simp [isForeign, hc])
  · exact absurd (hchars ' ' hspace) (by decide)
  · exact absurd (hchars ',' hcomma) (by decide)

namespace Target

variable {t : Target}

/-- A column is a single word with a point in it. -/
theorem calm_plainColumn {c : ColumnRef}
    (h : t.profile.quoteStyle.Admits c.qualifier ∧ t.profile.quoteStyle.Admits c.metadata.name) :
    calm (surface t.profile.quoteStyle (t.plainColumn c)) = true := by
  have hqualifier := Profile.surface_identifierText h.1
  have hname := Profile.surface_identifierText h.2
  have hsurface : surface t.profile.quoteStyle (t.plainColumn c) =
      surface t.profile.quoteStyle (t.profile.identifierText c.qualifier) ++
        '.' :: surface t.profile.quoteStyle (t.profile.identifierText c.metadata.name) := by
    have hopen : opened? t.profile.quoteStyle '.' = none := by
      cases t.profile.quoteStyle <;> rfl
    rw [plainColumn, String.append_assoc, surface_append (Profile.safe_identifierText h.1).closes]
    refine congrArg _ ?_
    rw [surface, String.toList_append]
    exact uncovered_plain hopen 0 _
  have hmissing : ∀ d ∈ [' ', ','], d ∉ surface t.profile.quoteStyle (t.plainColumn c) := by
    intro d hd hmem
    have hchar : d.isAlphanum = true ∨ d = '_' ∨ d = '.' := by
      rw [hsurface, List.mem_append, List.mem_cons] at hmem
      obtain hmem | rfl | hmem := hmem
      · exact (hqualifier d hmem).imp_right .inl
      · exact .inr (.inr rfl)
      · exact (hname d hmem).imp_right .inl
    obtain rfl | rfl : d = ' ' ∨ d = ',' := by simpa using hd
    · exact absurd hchar (by decide)
    · exact absurd hchar (by decide)
  refine calm_of_word (c := '.') (hmissing ' ' (by decide)) (hmissing ',' (by decide)) ?_ rfl
  rw [hsurface]
  exact List.mem_append_right _ List.mem_cons_self

theorem Templated.calm_plainLiteral (ht : t.Templated) {l : Literal}
    (h : t.plainLiteral l = .ok sql) : calm (surface style sql) = true := by
  obtain ⟨s, -, rfl⟩ | ⟨-, hnumeral | hdelimited⟩ :=
    ht.plainLiteral_cases (fun value _ => safe_stringLiteral value) h
  · rw [surface, uncovered_stringLiteral]
    rfl
  · exact calm_of_isNumeral hnumeral
  · exact hdelimited.calm fun _ h => h

/-! ## expressions -/

theorem calm_parentheses (h : Safe style sql) : calm (surface style ("(" ++ sql ++ ")")) = true :=
  Piece.calm_join [.fixed "(", .part sql, .fixed ")"] rfl (by simpa [Piece.contents] using h)
    (by simp [Piece.inner])

/-- A junction holds together as its one operand does, and by its parentheses if it has more. -/
theorem calm_junction {keyword : String} {empty : QueryError} {es : List Expr}
    {parts : List String}
    (hkeyword : Piece.delimits
      [.fixed "(", .parts (" " ++ keyword ++ " ") parts, .fixed ")"] = true)
    (hd : Expr.isDelimitedJunction es = true)
    (hsafe : ∀ e ∈ es, ∀ sql, t.render .nested e = .ok sql → Safe style sql)
    (hcalm : ∀ e ∈ es, ∀ sql, e.isDelimited = true → t.render .nested e = .ok sql →
      calm (surface style sql) = true)
    (hparts : t.renderAll es = .ok parts) (h : junction keyword empty parts = .ok sql) :
    calm (surface style sql) = true := by
  have hrendered := renderAll_eq_ok.1 hparts
  obtain rfl | ⟨-, rfl⟩ := junction_eq_ok.1 h
  · cases hrendered with
    | cons hsql hrest =>
      cases hrest
      exact hcalm _ List.mem_cons_self sql hd hsql
  · exact Piece.calm_join [.fixed "(", .parts (" " ++ keyword ++ " ") parts, .fixed ")"] hkeyword
      (by simpa [Piece.contents] using forall_of_forall₂ hrendered hsafe) (by simp [Piece.inner])

/-- A text that is not put in parentheses beside an operator needs none.  The induction follows
chains of junctions with one operand; other expressions hold together by themselves. -/
theorem calm_render (ht : t.Templated) {e : Expr} (hn : e.NamesAdmitted t.profile.quoteStyle)
    (hd : e.isDelimited = true) (h : t.render .nested e = .ok sql) :
    calm (surface t.profile.quoteStyle sql) = true := by
  induction e generalizing sql with
  | column c =>
    cases h
    exact calm_plainColumn (hn c .here)
  | literal l =>
    rw [render_literal, literalText_nested] at h
    exact ht.calm_plainLiteral h
  | and es ih =>
    obtain ⟨parts, hparts, hsql⟩ := render_and.1 h
    exact calm_junction rfl hd (fun e he sql => safe_render ht (hn.child he))
      (fun e he sql => ih e he (hn.child he)) hparts hsql
  | or es ih =>
    obtain ⟨parts, hparts, hsql⟩ := render_or.1 h
    exact calm_junction rfl hd (fun e he sql => safe_render ht (hn.child he))
      (fun e he sql => ih e he (hn.child he)) hparts hsql
  | scalar f args =>
    obtain ⟨-, parts, hparts, rfl⟩ := render_scalar.1 h
    rw [callText_nested]
    refine (ht.delimited_scalarText ?_ hparts).calm fun _ h => h
    exact fun c hc text => assembled_renderOperand ht (hn.child hc).supplied
  | aggregate f args distinct orderBy separator =>
    obtain ⟨-, -, parts, keys, hparts, hkeys, rfl⟩ := render_aggregate.1 h
    rw [callText_nested]
    refine (ht.aggregateText (partsAssembled ?_ ?_ (fun value _ _ => safe_stringLiteral value)
      hparts hkeys)).calm fun _ h => h
    · exact fun c hc text =>
        assembled_renderOperand ht (hn.child (List.mem_append_left _ hc)).supplied
    · exact fun k hk sql => assembled_render ht
        (hn.child (List.mem_append_right _ (List.mem_map_of_mem hk))).supplied
  | not | compare | like | likeEscape | between | inList | isNull => cases hd

theorem calm_renderOperand (ht : t.Templated) {e : Expr}
    (hn : e.NamesAdmitted t.profile.quoteStyle) (h : t.renderOperand e = .ok sql) :
    calm (surface t.profile.quoteStyle sql) = true := by
  obtain ⟨inner, hinner, rfl⟩ := renderOperand_eq_ok.1 h
  unfold Expr.delimit
  split
  next hd => exact calm_render ht hn hd hinner
  next => exact calm_parentheses (safe_render ht hn hinner)

end Target

/-- **Operands are atomic**: in every built dialect the text of an operand has no comma, no operator
and no leading negation outside of quotes and parentheses.  So whatever is written beside it, the
operators and commas a reader finds are those written beside it. -/
theorem Dialect.atomic_renderOperand {d : Dialect} {p : Properties} {t : Target} {e : Expr}
    {sql : String} (ht : d.target p = .ok t) (hn : e.NamesAdmitted t.profile.quoteStyle)
    (h : t.renderOperand e = .ok sql) :
    Atomic t.profile.quoteStyle sql ∧
      ∀ front back, Closes t.profile.quoteStyle front →
        operatorWords t.profile.quoteStyle (front ++ " " ++ sql ++ " " ++ back) =
          operatorWords t.profile.quoteStyle front ++ operatorWords t.profile.quoteStyle back ∧
        (surface t.profile.quoteStyle (front ++ sql ++ back)).count ',' =
          (surface t.profile.quoteStyle front).count ',' +
            (surface t.profile.quoteStyle back).count ',' := by
  have hatomic := atomic_of_calm (Target.calm_renderOperand (templated ht) hn h)
  have hcloses := (Target.safe_renderOperand (templated ht) hn h).closes
  refine ⟨hatomic, fun front back hfront => ?_⟩
  exact ⟨operatorWords_beside hatomic hcloses hfront back,
    count_comma_beside hatomic hcloses hfront back⟩

/-- Junctions of one operand around a condition, and operators in a name: the condition is put in
parentheses, and only the operators beside it are left. -/
theorem Dialect.atomic_single_junctions :
    SqlServer.target.renderOperand
      (.or [.and [.isNull (.column ⟨"t", none, 0, ⟨"a AND b, c", .date, "DATE"⟩⟩) true]]) =
      .ok "(t.[a AND b, c] IS NOT NULL)" ∧
    Atomic .bracket "(t.[a AND b, c] IS NOT NULL)" ∧
    operatorWords .bracket ("x <>" ++ " " ++ "(t.[a AND b, c] IS NOT NULL)" ++ " " ++ "AND y") =
      ["<>", "AND"] := by
  generalize he : Expr.or [.and [.isNull (.column _) true]] = e
  have htarget : sqlServer.target {} = .ok SqlServer.target := rfl
  have hsql : SqlServer.target.renderOperand e = .ok "(t.[a AND b, c] IS NOT NULL)" := by
    subst he
    decide +kernel
  have hnames : e.NamesAdmitted .bracket := by
    subst he
    have hcolumn : Expr.NamesAdmitted .bracket
        (.column ⟨"t", none, 0, ⟨"a AND b, c", .date, "DATE"⟩⟩) :=
      Expr.namesAdmitted_iff.2 ⟨fun c hc => by cases hc; decide +kernel, fun _ hc => nomatch hc⟩
    have hnull : Expr.NamesAdmitted .bracket (.isNull _ true) := Expr.namesAdmitted_iff.2
      ⟨fun _ hc => (nomatch hc), List.forall_mem_singleton.2 hcolumn⟩
    have hand : Expr.NamesAdmitted .bracket (.and _) := Expr.namesAdmitted_iff.2
      ⟨fun _ hc => (nomatch hc), List.forall_mem_singleton.2 hnull⟩
    exact Expr.namesAdmitted_iff.2 ⟨fun _ hc => (nomatch hc), List.forall_mem_singleton.2 hand⟩
  have hcloses : Closes .bracket "x <>" := ⟨.calm, by decide +kernel⟩
  obtain ⟨hatomic, hbeside⟩ := atomic_renderOperand htarget hnames hsql
  exact ⟨hsql, hatomic, (hbeside "x <>" "AND y" hcloses).1.trans (by decide +kernel)⟩

end RemoteQuery
