import RemoteQuery.Proofs.NoInjection
import RemoteQuery.Proofs.StarList

/-!
# RemoteQuery.Proofs.FirstCharacters

Some rules look at the first character of a written operand: a quote there stands
for a string literal, and a parenthesis for an operand in parentheses.  Both are
right.  What a template starts with does not depend on its parts, so for calls
and most literals that is decided by evaluation; conditions stand in
parentheses, and a junction of one operand is written as that operand.

* `IsGroup` — a text whose first parenthesis closes with its last character;
* `Target.head?_renderOperand` — a quote stands in front of string literals only;
* `Target.isGroup_renderOperand` — a parenthesis in front encloses the operand;
* `Dialect.firstCharacter_sound` — so concatenations and durations are written as
  they should be.
-/

namespace RemoteQuery

open Lexing Calls

variable {style : QuoteStyle} {sql : String}

/-! ## texts in one pair of parentheses -/

/-- A text in one pair of parentheses: the one it starts with is open in front of the last character
and closes there.  What stands in quotes does not count. -/
structure IsGroup (style : QuoteStyle) (sql : String) : Prop where
  opens : sql.toList.head? = some '('
  staysOpen : ∀ front, front <+: sql.toList → front ≠ [] → front ≠ sql.toList →
    (scan style none front).1.count ')' < (scan style none front).1.count '('
  closes : (outside style sql).count '(' = (outside style sql).count ')'

/-- The parentheses outside of quotes that a run leaves open. -/
theorem count_of_run {s : State} {cs : List Char} (h : run style (.at 0) cs = some s) :
    (scan style none cs).1.count '(' = s.marks.depth + (scan style none cs).1.count ')' := by
  have hsettled : Settled style none ⟨0, .calm⟩ := fun _ hq => nomatch hq
  have hdepth := depth_of_check (scan_of_run hsettled h).2
  rwa [Nat.zero_add] at hdepth

theorem run_parenthesis (cs : List Char) :
    run style (.at 0) ('(' :: cs) = run style (.at 1) cs := by
  have hopen : step style (.at 0) '(' = some (.at 1) := by cases style <;> rfl
  rw [run, hopen, Option.bind_some]

theorem isGroup_of_run {body : List Char} (hsql : sql.toList = '(' :: (body ++ [')']))
    (h : run style (.at 0) body = some (.at 0)) : IsGroup style sql := by
  refine ⟨by rw [hsql]; rfl, fun front hfront hne hproper => ?_, ?_⟩
  · rw [hsql] at hfront hproper
    obtain rfl | ⟨rest, rfl, hrest⟩ := List.prefix_cons_iff.1 hfront
    · contradiction
    · -- Short of the last character, the text ran only into the body.
      obtain rfl | ⟨back, hback⟩ := List.prefix_concat_iff.1 hrest
      · contradiction
      · rw [← hback, run_append] at h
        obtain ⟨s, hs, -⟩ := Option.bind_eq_some_iff.1 h
        have hrun : run style (.at 0) ('(' :: rest) = some (s.raise 1) := by
          rw [run_parenthesis]
          exact run_raise hs 1
        have hcount := count_of_run hrun
        simp only [State.raise] at hcount
        omega
  · have hclose : run style (.at 1) [')'] = some (.at 0) := by cases style <;> rfl
    have hbody : run style (.at 1) body = some (.at 1) := run_raise h 1
    have hrun : run style (.at 0) sql.toList = some (.at 0) := by
      rw [hsql, run_parenthesis, run_append, hbody, Option.bind_some, hclose]
    have hcount := count_of_run hrun
    simpa [outside, State.at] using hcount

theorem isGroup_parentheses {body : String} (h : Safe style body) :
    IsGroup style ("(" ++ body ++ ")") :=
  isGroup_of_run (by simp [String.toList_append]) (h 0)

/-! ## templates -/

namespace Piece

/-- Pieces that close a parenthesis with their last character run through all that stands before
it. -/
theorem run_of_closesLast {s : State} {ps : List Piece} (hs : s.Neutral)
    (h : closesLast s ps = true) (hparts : ∀ t ∈ contents ps, Safe style t)
    (hinner : ∀ t ∈ inner ps, '\'' ∉ t.toList) :
    ∃ body, (join ps).toList = body ++ [')'] ∧ run style s body = some (.at 0) := by
  rw [toList_join]
  fun_induction closesLast s ps with
  | case1 s text =>
    simp only [Bool.and_eq_true, List.all_eq_true, decide_eq_true_eq] at h
    obtain ⟨⟨hneutral, hlast⟩, hrun⟩ := h
    refine ⟨text.toList.dropLast, ?_, ?_⟩
    · simpa [Piece.text] using (List.dropLast_append_getLast? ')' hlast).symm
    · exact (run_neutral hs (fun c hc => hneutral c (List.dropLast_subset _ hc)) hrun).1
  | case2 s p ps hlonger ih =>
    rw [contents_cons] at hparts
    rw [inner_cons] at hinner
    obtain ⟨s₁, hs₁, hps⟩ := (Option.any_eq_true _ _).1 h
    obtain ⟨hrun, hneutral⟩ := run_text hs hs₁ (fun t ht => hparts t (List.mem_append_left _ ht))
      (fun t ht => hinner t (List.mem_append_left _ ht)) 0
    obtain ⟨body, hbody, hend⟩ := ih s₁ hneutral hps
      (fun t ht => hparts t (List.mem_append_right _ ht))
      fun t ht => hinner t (List.mem_append_right _ ht)
    rw [State.raise_zero, State.raise_zero] at hrun
    refine ⟨p.text.toList ++ body, ?_, ?_⟩
    · rw [List.flatMap_cons, hbody, List.append_assoc]
    · rw [run_append, hrun, Option.bind_some, hend]
  | case3 s => cases h

/-- A template starts with a character of its first fixed text. -/
theorem head_cases_of_delimits {ps : List Piece} (h : delimits ps = true) :
    (∃ c cs, (join ps).toList = c :: cs ∧ c ≠ '\'' ∧ c ≠ '(') ∨
      ∃ rest, ps = fixed "(" :: rest ∧ closesLast (.at 0) rest = true := by
  rw [delimits, Bool.and_eq_true, Bool.and_eq_true] at h
  replace h := h.1.2
  unfold leads at h
  split at h
  next text ps =>
    split at h
    next => cases h
    next htext =>
      rw [← String.toList_inj.1 (htext.trans (by rfl : _ = "(".toList))]
      exact .inr ⟨ps, rfl, h⟩
    next c cs _ htext =>
      simp only [Bool.and_eq_true, bne_iff_ne] at h
      refine .inl ⟨c, cs ++ ps.flatMap fun q => q.text.toList, ?_, h⟩
      rw [toList_join, List.flatMap_cons, Piece.text, htext, List.cons_append]
  next => cases h

end Piece

/-- A name is empty or starts with one of its characters. -/
theorem head_cases_of_isName {name : String} (h : isName name = true) :
    name = "" ∨ ∃ c cs, name.toList = c :: cs ∧ c ≠ '\'' ∧ c ≠ '(' := by
  cases hchars : name.toList with
  | nil => exact .inl (String.toList_eq_nil_iff.1 hchars)
  | cons c cs =>
    have hc := List.all_eq_true.1 h c (by simp [hchars])
    refine .inr ⟨c, cs, rfl, ?_, ?_⟩ <;> rintro rfl <;> contradiction

namespace Delimited

variable {Given : String → Prop}

/-- A text that holds together does not start with a quote. -/
theorem head?_ne_quote (h : Delimited Given sql) : sql.toList.head? ≠ some '\'' := by
  cases h with
  | template ps h _ _ =>
    obtain ⟨c, cs, hps, hc, -⟩ | ⟨rest, rfl, -⟩ := Piece.head_cases_of_delimits h
    · simpa [hps] using hc
    · simp [Piece.toList_join, Piece.text]
  | named hname _ =>
    obtain rfl | ⟨c, cs, hchars, hc, -⟩ := head_cases_of_isName hname
    · simp
    · simpa [hchars] using hc

/-- A text that holds together and starts with a parenthesis is enclosed by it. -/
theorem isGroup (h : Delimited Given sql) (hgiven : ∀ t, Given t → Safe style t)
    (hopen : sql.toList.head? = some '(') : IsGroup style sql := by
  cases h with
  | template ps h hparts hinner =>
    obtain ⟨c, cs, hps, -, hc⟩ | ⟨rest, rfl, hlast⟩ := Piece.head_cases_of_delimits h
    · exact absurd (by simpa [hps] using hopen) hc
    · have hsafe : ∀ t ∈ Piece.contents rest, Safe style t := fun t ht =>
        (hparts t ht).safe hgiven
      obtain ⟨body, hbody, hrun⟩ := Piece.run_of_closesLast (.inl rfl) hlast hsafe
        fun t ht => (hinner t ht).1
      refine isGroup_of_run ?_ hrun
      rw [Piece.toList_join] at hbody ⊢
      rw [List.flatMap_cons, hbody]
      rfl
  | named hname hbody =>
    obtain rfl | ⟨c, cs, hchars, -, hc⟩ := head_cases_of_isName hname
    · exact isGroup_of_run (by simp) (hbody.safe hgiven 0)
    · exact absurd (by simpa [hchars] using hopen) hc

end Delimited

/-! ## expressions -/

namespace Expr

mutual

/-- The expression that is written: a junction of one operand is written as that operand. -/
def unwrapped : Expr → Expr
  | and es => (onlyOperand? es).getD (and es)
  | or es => (onlyOperand? es).getD (or es)
  | e => e
termination_by structural e => e

/-- The operand of a junction that has one only, unwrapped. -/
def onlyOperand? : List Expr → Option Expr
  | [e] => some e.unwrapped
  | _ => none
termination_by structural es => es

end

theorem onlyOperand?_eq_none {es : List Expr} (h : es.length ≠ 1) : onlyOperand? es = none := by
  match es with
  | [] => rfl
  | [_] => exact absurd rfl h
  | _ :: _ :: _ => rfl

/-- Whether an expression is a string literal. -/
def isString : Expr → Bool
  | literal (.string _) => true
  | _ => false

end Expr

namespace Target

variable {t : Target} {text : String}

/-- A junction of one operand is written as that operand; one of more stands in parentheses. -/
theorem renderOperand_junction {e : Expr} (es : List Expr) (he : e = .and es ∨ e = .or es)
    (h : t.renderOperand e = .ok text) :
    (∃ c, es = [c] ∧ t.renderOperand c = .ok text) ∨
      es.length ≠ 1 ∧ ∃ separator parts, separator ∈ [" AND ", " OR "] ∧
        t.renderAll es = .ok parts ∧ "(" ++ separator.intercalate parts ++ ")" = text := by
  obtain ⟨sql, hsql, rfl⟩ := renderOperand_eq_ok.1 h
  obtain ⟨keyword, empty, parts, hkeyword, hparts, hjunction⟩ :
      ∃ keyword empty parts, " " ++ keyword ++ " " ∈ [" AND ", " OR "] ∧
        t.renderAll es = .ok parts ∧ junction keyword empty parts = .ok sql := by
    obtain rfl | rfl := he
    · obtain ⟨parts, hparts, hsql⟩ := render_and.1 hsql
      exact ⟨"AND", _, parts, by decide, hparts, hsql⟩
    · obtain ⟨parts, hparts, hsql⟩ := render_or.1 hsql
      exact ⟨"OR", _, parts, by decide, hparts, hsql⟩
  have hlength := (renderAll_eq_ok.1 hparts).length_eq
  obtain rfl | ⟨hmany, rfl⟩ := junction_eq_ok.1 hjunction
  · left
    obtain ⟨c, rfl⟩ := List.length_eq_one_iff.1 hlength
    have hc : t.render .nested c = .ok sql := by simpa using renderAll_eq_ok.1 hparts
    refine ⟨c, rfl, renderOperand_eq_ok.2 ⟨sql, hc, ?_⟩⟩
    obtain rfl | rfl := he <;> rfl
  · right
    have hes : Expr.isDelimitedJunction es = true := by
      match es with
      | [] => rfl
      | [_] => simp at hlength; omega
      | _ :: _ :: _ => rfl
    refine ⟨by omega, _, parts, hkeyword, hparts, ?_⟩
    obtain rfl | rfl := he <;> exact (if_pos hes).symm

/-- A condition that does not hold together stands in parentheses. -/
theorem renderOperand_condition {e : Expr} (hd : e.isDelimited = false)
    (h : t.renderOperand e = .ok text) :
    ∃ sql, t.render .nested e = .ok sql ∧ "(" ++ sql ++ ")" = text := by
  obtain ⟨sql, hsql, rfl⟩ := renderOperand_eq_ok.1 h
  exact ⟨sql, hsql, by simp [Expr.delimit, hd]⟩

/-- A number starts with a digit or a sign. -/
theorem head?_ne_of_isNumeral {cs : List Char} (h : Text.IsNumeral cs) :
    cs.head? ≠ some '\'' ∧ cs.head? ≠ some '(' := by
  obtain ⟨c, rest, rfl, hc, -⟩ | ⟨body, rfl, -⟩ := h
  · constructor <;> rintro ⟨⟩ <;> contradiction
  · constructor <;> rintro ⟨⟩

theorem head?_ne_plainColumn (t : Target) (c : ColumnRef) :
    (t.plainColumn c).toList.head? ≠ some '\'' ∧ (t.plainColumn c).toList.head? ≠ some '(' := by
  obtain ⟨x, xs, hx, hquote, hparen, -⟩ := t.plainColumn_eq_cons c
  simpa [hx] using ⟨hquote, hparen⟩

theorem head?_plainLiteral (ht : t.Templated) {l : Literal} (h : t.plainLiteral l = .ok sql) :
    sql.toList.head? = some '\'' ↔ (Expr.literal l).isString = true := by
  obtain ⟨s, rfl, rfl⟩ | ⟨hstring, hsql⟩ :=
    ht.plainLiteral_cases (fun value _ => @safe_stringLiteral .double value) h
  · exact iff_of_true (head?_stringLiteral s) rfl
  · have hliteral : (Expr.literal l).isString = false := by
      cases l with
      | string s => exact absurd rfl (hstring s)
      | _ => rfl
    rw [hliteral]
    refine iff_of_false ?_ Bool.false_ne_true
    obtain hnumeral | hdelimited := hsql
    · exact (head?_ne_of_isNumeral hnumeral).1
    · exact hdelimited.head?_ne_quote

theorem isGroup_plainLiteral (ht : t.Templated) {l : Literal} (h : t.plainLiteral l = .ok sql)
    (hopen : sql.toList.head? = some '(') : IsGroup style sql := by
  obtain ⟨s, -, rfl⟩ | ⟨-, hnumeral | hdelimited⟩ :=
    ht.plainLiteral_cases (fun value _ => safe_stringLiteral value) h
  · rw [head?_stringLiteral] at hopen
    cases hopen
  · exact absurd hopen (head?_ne_of_isNumeral hnumeral).2
  · exact hdelimited.isGroup (fun _ h => h) hopen

/-- The text of an operand starts with a quote exactly for string literals.  The induction follows
chains of junctions with one operand. -/
theorem head?_renderOperand (ht : t.Templated) {e : Expr} (h : t.renderOperand e = .ok text) :
    text.toList.head? = some '\'' ↔ e.unwrapped.isString = true := by
  induction e with
  | column c =>
    cases h
    exact iff_of_false (t.head?_ne_plainColumn c).1 Bool.false_ne_true
  | literal l =>
    obtain ⟨sql, hsql, rfl⟩ := renderOperand_eq_ok.1 h
    rw [render_literal, literalText_nested] at hsql
    exact head?_plainLiteral ht hsql
  | and es ih | or es ih =>
    obtain ⟨c, rfl, hc⟩ | ⟨hes, separator, parts, -, -, rfl⟩ :=
      renderOperand_junction es (by simp) h
    · exact ih c List.mem_cons_self hc
    · simp [Expr.unwrapped, Expr.onlyOperand?_eq_none hes, Expr.isString]
  | scalar f args =>
    obtain ⟨sql, hsql, rfl⟩ := renderOperand_eq_ok.1 h
    obtain ⟨-, parts, -, rfl⟩ := render_scalar.1 hsql
    rw [callText_nested]
    have hcall : Delimited (fun _ => True) (t.scalarText f parts) :=
      ht.scalarText fun _ _ => .given trivial
    exact iff_of_false hcall.head?_ne_quote Bool.false_ne_true
  | aggregate f args distinct orderBy separator =>
    obtain ⟨sql, hsql, rfl⟩ := renderOperand_eq_ok.1 h
    obtain ⟨-, -, parts, keys, -, -, rfl⟩ := render_aggregate.1 hsql
    rw [callText_nested]
    have hcall : Delimited (fun _ => True)
        (t.aggregateText ⟨f, parts, distinct, orderText orderBy keys, separator⟩) :=
      ht.aggregateText
        ⟨fun _ _ => .given trivial, fun _ _ => .given trivial, fun _ _ _ => .given trivial⟩
    exact iff_of_false hcall.head?_ne_quote Bool.false_ne_true
  | not | compare | like | likeEscape | between | inList | isNull =>
    obtain ⟨sql, -, rfl⟩ := renderOperand_condition rfl h
    simp [Expr.unwrapped, Expr.isString]

/-- A parenthesis at the front of an operand encloses it. -/
theorem isGroup_renderOperand (ht : t.Templated) {e : Expr}
    (hn : e.NamesAdmitted t.profile.quoteStyle) (h : t.renderOperand e = .ok text)
    (hopen : text.toList.head? = some '(') : IsGroup t.profile.quoteStyle text := by
  induction e with
  | column c =>
    cases h
    exact absurd hopen (t.head?_ne_plainColumn c).2
  | literal l =>
    obtain ⟨sql, hsql, rfl⟩ := renderOperand_eq_ok.1 h
    rw [render_literal, literalText_nested] at hsql
    exact isGroup_plainLiteral ht hsql hopen
  | and es ih | or es ih =>
    obtain ⟨c, rfl, hc⟩ | ⟨-, separator, parts, hseparator, hparts, rfl⟩ :=
      renderOperand_junction es (by simp) h
    · exact ih c List.mem_cons_self (hn.child List.mem_cons_self) hc
    · have hsafe := forall_of_forall₂ (renderAll_eq_ok.1 hparts) fun e he sql =>
        safe_render ht (hn.child he)
      refine isGroup_parentheses (.intercalate ?_ hsafe)
      obtain rfl | rfl : separator = " AND " ∨ separator = " OR " := by simpa using hseparator
      · exact safe_word rfl
      · exact safe_word rfl
  | scalar f args =>
    obtain ⟨sql, hsql, rfl⟩ := renderOperand_eq_ok.1 h
    obtain ⟨-, parts, hparts, rfl⟩ := render_scalar.1 hsql
    rw [callText_nested] at hopen ⊢
    refine (ht.delimited_scalarText ?_ hparts).isGroup (fun _ h => h) hopen
    exact fun c hc text => assembled_renderOperand ht (hn.child hc).supplied
  | aggregate f args distinct orderBy separator =>
    obtain ⟨sql, hsql, rfl⟩ := renderOperand_eq_ok.1 h
    obtain ⟨-, -, parts, keys, hparts, hkeys, rfl⟩ := render_aggregate.1 hsql
    rw [callText_nested] at hopen ⊢
    refine (ht.aggregateText (partsAssembled ?_ ?_ (fun value _ _ => safe_stringLiteral value)
      hparts hkeys)).isGroup (fun _ h => h) hopen
    · exact fun c hc text =>
        assembled_renderOperand ht (hn.child (List.mem_append_left _ hc)).supplied
    · exact fun k hk sql => assembled_render ht
        (hn.child (List.mem_append_right _ (List.mem_map_of_mem hk))).supplied
  | not | compare | like | likeEscape | between | inList | isNull =>
    obtain ⟨sql, hsql, rfl⟩ := renderOperand_condition rfl h
    exact isGroup_parentheses (safe_render ht hn hsql)

end Target

/-! ## concatenations -/

/-- How a target that joins texts only writes a concatenation: the conversion of an operand to text,
and the form of the operands after it. -/
structure TextConcat where
  convert : String → String
  form : List String → String

/-- A joined operand: string literals stay bare, and all others are converted. -/
def TextConcat.operand (c : TextConcat) (e : Expr) (sql : String) : String :=
  if e.unwrapped.isString then sql else c.convert sql

namespace Dialect

/-- The concatenation of the dialects that join texts only. -/
def textConcat? : Dialect → Option TextConcat
  | athena => some ⟨(cast · "VARCHAR"), fun sqls => defaultedCall "CONCAT" sqls 2 "''"⟩
  | impala => some ⟨(cast · "STRING"), call "CONCAT"⟩
  | redshift => some ⟨(cast · "VARCHAR(MAX)"), operatorChain "||"⟩
  | sybase => some ⟨fun sql => call "CONVERT" ["VARCHAR(16384)", sql], operatorChain "+"⟩
  | _ => none

theorem scalarText_concat {d : Dialect} {p : Properties} {t : Target} {c : TextConcat}
    (ht : d.target p = .ok t) (hc : d.textConcat? = some c) (sqls : List String) :
    t.scalarText .concat sqls = c.form (textArguments c.convert sqls) ∧
      t.profile.castsScalar .concat = false := by
  cases d with
  | athena | impala | redshift | sybase =>
    cases ht
    cases hc
    exact ⟨rfl, rfl⟩
  | _ => cases hc

end Dialect

/-- Arguments are converted exactly where their expressions ask for it. -/
theorem Target.textArguments_renderOperands {t : Target} (ht : t.Templated) (c : TextConcat)
    {es : List Expr} {sqls : List String}
    (h : List.Forall₂ (fun e sql => t.renderOperand e = .ok sql) es sqls) :
    textArguments c.convert sqls = List.zipWith c.operand es sqls := by
  induction h with
  | nil => rfl
  | @cons e sql es sqls he _ ih =>
    have hfirst : (if sql.toList.head? = some '\'' then sql else c.convert sql) = c.operand e sql :=
      if_congr (head?_renderOperand ht he) rfl rfl
    rw [List.zipWith_cons_cons, ← ih, ← hfirst]
    rfl

/-! ## labeled durations -/

namespace Calls

/-- A written integer is an integer literal. -/
theorem integerLiteral?_toString (n : Int) : integerLiteral? (toString n) = some n := by
  rw [integerLiteral?, Int.toString_eq_repr, Int.repr_eq_if]
  by_cases hsign : 0 ≤ n
  · rw [if_pos hsign, Nat.toList_repr]
    split
    next ds hds =>
      -- No digit is a sign.
      have hdigit := Text.isDigit_of_mem_digits (hds ▸ List.mem_cons_self : '-' ∈ _)
      contradiction
    next => simp [Text.digits?_toDigits, Int.toNat_of_nonneg hsign]
  · have hback : -((-n).toNat : Int) = n := by omega
    rw [if_neg hsign, String.toList_append, Nat.toList_repr]
    simpa [Text.digits?_toDigits] using hback

theorem isGroup_multiplied (factor : Int) {amount : String} (h : Safe style amount) :
    isIntegerLiteral (multiplied factor amount) = true ∨
      IsGroup style (multiplied factor amount) := by
  have hproduct : IsGroup style ("(" ++ toString factor ++ " * " ++ amount ++ ")") := by
    have hfactor : Safe style (toString factor) :=
      safe_of_signedDigits (Text.isNumeral_int factor).signedDigits
    have hbody : Safe style (toString factor ++ " * " ++ amount) :=
      (hfactor.append (safe_word rfl)).append h
    simpa only [String.append_assoc] using isGroup_parentheses hbody
  unfold multiplied
  split
  next n _ =>
    split
    · exact .inl (by rw [isIntegerLiteral, integerLiteral?_toString]; rfl)
    · exact .inr hproduct
  next => exact .inr hproduct

/-- The amount of a labeled duration is an integer literal or stands in parentheses. -/
theorem DateAdd.labeledAmount_cases {a : DateAdd} (hsafe : Safe style a.amount)
    (hgroup : a.amount.toList.head? = some '(' → IsGroup style a.amount) :
    isIntegerLiteral a.labeledAmount = true ∨ IsGroup style a.labeledAmount := by
  unfold labeledAmount
  dsimp only
  split
  next hbare =>
    unfold withoutWeeks at hbare ⊢
    split
    · exact isGroup_multiplied 7 hsafe
    next hunit =>
      rw [if_neg hunit] at hbare
      exact hbare.imp_right hgroup
  next =>
    have hamount : Safe style a.withoutWeeks.2 :=
      (assembled_withoutWeeks (.given hsafe)).safe fun _ h => h
    exact .inr (isGroup_parentheses hamount)

end Calls

namespace Dialect

/-- A call that adds to a date is written as a sum with a labeled duration. -/
theorem Db2.render_dateAdd {f : ScalarFunction} {unit : DateUnit} {args : List Expr}
    {position : Position} (hunit : DateUnit.ofFunction? f = some unit)
    (h : Db2.target.render position (.scalar f args) = .ok sql) :
    ∃ value amount, ∃ a : DateAdd, args = [value, amount] ∧
      Db2.target.renderOperand value = .ok a.value ∧
      Db2.target.renderOperand amount = .ok a.amount ∧ a.unit = unit ∧ a.durationSum = sql := by
  obtain ⟨harity, sqls, hsqls, rfl⟩ := Target.render_scalar.1 h
  have htwo : args.length = 2 := by
    refine eq_of_admits_exactly ?_
    revert harity
    cases f <;> first | exact id | cases hunit
  obtain ⟨value, amount, rfl⟩ := List.length_eq_two.1 htwo
  cases Target.renderOperands_eq_ok.1 hsqls with
  | @cons _ valueSql _ _ hvalue hrest =>
    cases hrest with
    | @cons _ amountSql _ _ hamount hnil =>
      cases hnil
      refine ⟨value, amount, ⟨unit, valueSql, amountSql⟩, rfl, hvalue, hamount, rfl, ?_⟩
      cases f <;> cases hunit <;> rfl

/-- **First characters are judged rightly**: in every built dialect the text of an operand starts
with a quote exactly if the operand is a string literal, up to junctions of one operand, and a
parenthesis at its front closes with its last character.  So where concatenation takes texts only,
exactly the operands that are no string literals are converted, and the amount of a labeled duration
is an integer literal or stands in one pair of parentheses. -/
theorem firstCharacter_sound {d : Dialect} {p : Properties} {t : Target}
    (ht : d.target p = .ok t) :
    (∀ e text, t.renderOperand e = .ok text →
      (text.toList.head? = some '\'' ↔ e.unwrapped.isString = true) ∧
      (e.NamesAdmitted t.profile.quoteStyle → text.toList.head? = some '(' →
        IsGroup t.profile.quoteStyle text)) ∧
    (∀ c position es sql, d.textConcat? = some c →
      t.render position (.scalar .concat es) = .ok sql →
      ∃ sqls, List.Forall₂ (fun e sql => t.renderOperand e = .ok sql) es sqls ∧
        c.form (List.zipWith c.operand es sqls) = sql) ∧
    (∀ f unit position args sql, d = db2 → DateUnit.ofFunction? f = some unit →
      t.render position (.scalar f args) = .ok sql →
      ∃ value amount, ∃ a : DateAdd, args = [value, amount] ∧
        t.renderOperand value = .ok a.value ∧ t.renderOperand amount = .ok a.amount ∧
        a.unit = unit ∧
        "(" ++ a.value ++ " + " ++ a.labeledAmount ++ " " ++ a.withoutWeeks.1.keyword ++ "S)" =
          sql ∧
        (isIntegerLiteral a.labeledAmount = true ∨
          IsGroup t.profile.quoteStyle a.labeledAmount)) := by
  have htemplated := templated ht
  refine ⟨fun e text h => ?_, fun c position es sql hc h => ?_,
    fun f unit position args sql hd hunit h => ?_⟩
  · exact ⟨Target.head?_renderOperand htemplated h,
      fun hn => Target.isGroup_renderOperand htemplated hn h⟩
  · obtain ⟨-, sqls, hsqls, rfl⟩ := Target.render_scalar.1 h
    have hrendered := Target.renderOperands_eq_ok.1 hsqls
    obtain ⟨htext, hcast⟩ := scalarText_concat ht hc sqls
    refine ⟨sqls, hrendered, ?_⟩
    rw [htext, hcast, Target.textArguments_renderOperands htemplated c hrendered]
    rfl
  · subst hd
    cases ht
    obtain ⟨value, amount, a, rfl, hvalue, hamount, rfl, rfl⟩ := Db2.render_dateAdd hunit h
    have hnames : amount.NamesAdmitted .double := fun _ _ => ⟨nofun, nofun⟩
    exact ⟨value, amount, a, rfl, hvalue, hamount, rfl, a.durationSum_eq.symm,
      DateAdd.labeledAmount_cases (Target.safe_renderOperand htemplated hnames hamount)
        (Target.isGroup_renderOperand htemplated hnames hamount)⟩

/-- A test of a name with parentheses in it stands in one pair of its own, a string in a junction of
one operand is joined as it is, and weeks are added as days, in parentheses as well. -/
theorem firstCharacter_of_junction :
    IsGroup .bracket "(t.[b) (c] IS NULL)" ∧
    (∃ c sqls, sybase.textConcat? = some c ∧
      List.Forall₂ (fun e sql => Sybase.target.renderOperand e = .ok sql)
        [.or [.literal (.string "(a")], .literal (.bool true)] sqls ∧
      c.form (List.zipWith c.operand [.or [.literal (.string "(a")], .literal (.bool true)] sqls) =
        "('(a' + CONVERT(VARCHAR(16384), 1))") ∧
    (∃ a : DateAdd, "(" ++ a.value ++ " + " ++ a.labeledAmount ++ " " ++
        a.withoutWeeks.1.keyword ++ "S)" = "(CURRENT_DATE + (7 * (1 + 1)) DAYS)" ∧
      (isIntegerLiteral a.labeledAmount = true ∨ IsGroup .double a.labeledAmount)) := by
  have hsybase : sybase.target {} = .ok Sybase.target := rfl
  have hdb2 : db2.target {} = .ok Db2.target := rfl
  obtain ⟨hoperand, hconcat, -⟩ := firstCharacter_sound hsybase
  obtain ⟨-, -, hduration⟩ := firstCharacter_sound hdb2
  refine ⟨?_, ?_, ?_⟩
  · generalize hcolumn : Expr.column ⟨"t", none, 0, ⟨"b) (c", .date, "DATE"⟩⟩ = column
    have hsql : Sybase.target.renderOperand (.isNull column false) =
        .ok "(t.[b) (c] IS NULL)" := by
      subst hcolumn
      decide +kernel
    have hnames : Expr.NamesAdmitted .bracket (.isNull column false) := by
      subst hcolumn
      intro ref hocc
      obtain heq | ⟨child, hchild, hocc⟩ := Expr.occurs_iff.1 hocc
      · cases heq
      · rw [List.mem_singleton.1 hchild] at hocc
        cases hocc with
        | here => decide +kernel
        | inside hnone => cases hnone
    exact (hoperand _ _ hsql).2 hnames (by decide +kernel)
  · have hsql : Sybase.target.render .nested (.scalar .concat [.or [.literal (.string "(a")],
        .literal (.bool true)]) = .ok "('(a' + CONVERT(VARCHAR(16384), 1))" := by
      decide +kernel
    obtain ⟨sqls, hsqls, htext⟩ := hconcat _ _ _ _ rfl hsql
    exact ⟨_, sqls, rfl, hsqls, htext⟩
  · have hsql : Db2.target.render .nested (.scalar .addWeeks [.scalar .currentDate [],
        .scalar .add [.literal (.bool true), .literal (.bool true)]]) =
        .ok "(CURRENT_DATE + (7 * (1 + 1)) DAYS)" := by
      decide +kernel
    obtain ⟨-, -, a, -, -, -, -, htext, hamount⟩ := hduration _ _ _ _ _ rfl rfl hsql
    exact ⟨a, htext, hamount⟩

end Dialect

end RemoteQuery
