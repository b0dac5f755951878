import RemoteQuery.Proofs.ReadingBack
import RemoteQuery.Proofs.Rendering

/-!
# RemoteQuery.Proofs.Unambiguous

Native text is unambiguous: it is read back as the normal form of the expression
it was written from, so two expressions with one text have one normal form.

A bound on the nesting is carried through the induction as the length of the
text: every part of an expression is written in fewer characters than the whole.

* `Readable` — how the text of an expression is read, alone and beside an operator;
* `readable` — every native text is read back;
* `Dialect.Native.normalForm_eq_of_render_eq` — native text is unambiguous.
-/

namespace RemoteQuery

open Reader Reading Dialect

theorem length_closing : ")".toList.length = 1 := rfl

/-- The text of an expression is read back, alone and beside an operator. -/
structure Readable (e : Expr) (sql : String) : Prop where
  asOperand : ∀ n, (e.delimit sql).toList.length < n →
    (operand n).Reads endsOperand (e.delimit sql).toList e.normalForm
  asCondition : ∀ n, sql.toList.length < n →
    (condition (operand n)).Reads endsCondition sql.toList e.normalForm

namespace Readable

variable {e : Expr} {sql : String}

/-- An expression that holds together is read as an operand, and so as a condition. -/
theorem of_operand (hd : e.isDelimited = true)
    (h : ∀ n, sql.toList.length ≤ n →
      (operandWith (operand n)).Reads endsOperand sql.toList e.normalForm) : Readable e sql := by
  have hop : ∀ n, sql.toList.length < n →
      (operand n).Reads endsOperand sql.toList e.normalForm := by
    intro n hn
    cases n with
    | zero => exact absurd hn (Nat.not_lt_zero _)
    | succ n => exact h n (Nat.lt_succ_iff.1 hn)
  refine ⟨?_, fun n hn => condition_operand (hop n hn)⟩
  rw [Expr.delimit, if_pos hd]
  exact hop

/-- An expression that does not hold together is an operand in parentheses. -/
theorem of_condition (hd : e.isDelimited = false)
    (h : ∀ n, sql.toList.length < n →
      (condition (operand n)).Reads endsCondition sql.toList e.normalForm) : Readable e sql := by
  refine ⟨?_, h⟩
  rw [Expr.delimit, if_neg (by simp [hd])]
  intro n hn rest _
  cases n with
  | zero => exact absurd hn (Nat.not_lt_zero _)
  | succ n =>
    have hlen : sql.toList.length < n := by
      simp only [String.toList_append, List.length_append, length_closing] at hn
      omega
    have hgroup := group_condition (h n hlen) rest
    simp only [String.toList_append, List.append_assoc] at hgroup ⊢
    exact hgroup

end Readable

/-! ## lists -/

theorem operand_read {e : Expr} {text : String} {n : Nat}
    (ih : ∀ {sql}, Native.target.render .nested e = .ok sql → Readable e sql)
    (h : Native.target.renderOperand e = .ok text) (hn : text.toList.length < n) :
    (operand n).Reads endsOperand text.toList e.normalForm := by
  obtain ⟨sql, hsql, rfl⟩ := Target.renderOperand_eq_ok.1 h
  exact (ih hsql).asOperand n hn

theorem operands_read {es : List Expr} {parts : List String} {n : Nat}
    (ih : ∀ e ∈ es, ∀ {sql}, Native.target.render .nested e = .ok sql → Readable e sql)
    (h : List.Forall₂ (fun e sql => Native.target.renderOperand e = .ok sql) es parts)
    (hn : ∀ part ∈ parts, part.toList.length < n) :
    List.Forall₂ ((operand n).Reads endsOperand) (parts.map String.toList)
      (Expr.normalForms es) := by
  induction h with
  | nil => exact .nil
  | @cons e part es parts he _ ihl =>
    rw [List.forall_mem_cons] at ih hn
    exact .cons (operand_read ih.1 he hn.1) (ihl ih.2 hn.2)

theorem conditions_read {es : List Expr} {parts : List String} {n : Nat}
    (ih : ∀ e ∈ es, ∀ {sql}, Native.target.render .nested e = .ok sql → Readable e sql)
    (h : List.Forall₂ (fun e sql => Native.target.render .nested e = .ok sql) es parts)
    (hn : ∀ part ∈ parts, part.toList.length < n) :
    List.Forall₂ ((condition (operand n)).Reads endsCondition) (parts.map String.toList)
      (Expr.normalForms es) := by
  induction h with
  | nil => exact .nil
  | @cons e part es parts he _ ihl =>
    rw [List.forall_mem_cons] at ih hn
    exact .cons ((ih.1 he).asCondition n hn.1) (ihl ih.2 hn.2)

/-- A native ordering key states its direction and the place of absent values. -/
theorem keyTexts_native (k : OrderKey Expr) (sql : String) : Native.target.keyTexts k sql =
    [sql ++ directionWord (k.ascending, k.nullsLast)] := by
  obtain ⟨e, ascending, nullsLast⟩ := k
  cases ascending <;> cases nullsLast <;>
    simp [Target.keyTexts, Profile.sortKeys, SortKey.text, Native.target, directionWord,
      String.append_assoc]

theorem keys_read {ks : List (OrderKey Expr)} {texts : List String} {n : Nat}
    (ih : ∀ k ∈ ks, ∀ {sql}, Native.target.render .nested k.expr = .ok sql → Readable k.expr sql)
    (h : Native.target.renderKeys ks = .ok texts)
    (hn : ∀ text ∈ texts, text.toList.length < n) :
    List.Forall₂ ((orderKey (operand n)).Reads fun _ => true) (texts.map String.toList)
      (Expr.keyForms ks) := by
  obtain ⟨parts, hparts, rfl⟩ := Target.renderKeys_eq_ok.1 h
  clear h
  induction hparts with
  | nil => exact .nil
  | @cons k part ks parts hk _ ihl =>
    obtain ⟨sql, hsql, rfl⟩ := hk
    rw [List.forall_mem_cons] at ih
    rw [keyTexts_native, List.flatten_cons, List.singleton_append, List.forall_mem_cons] at hn
    rw [keyTexts_native, List.flatten_cons, List.singleton_append, List.map_cons]
    have hlen : sql.toList.length < n := by
      rw [String.toList_append, List.length_append] at hn
      omega
    have hkey := orderKey_append ((ih.1 hsql).asCondition n hlen) (k.ascending, k.nullsLast)
    rw [← String.toList_append] at hkey
    exact .cons hkey (ihl ih.2 hn.2)

/-! ## expressions -/

/-- The parts of a list in parentheses are shorter than the whole. -/
theorem part_lt (separator : String) {parts : List String} {n : Nat}
    (h : (separator.toList.intercalate (parts.map String.toList)).length < n) :
    ∀ part ∈ parts, part.toList.length < n :=
  fun _ hp => Nat.lt_of_le_of_lt (length_le_of_mem (List.mem_map_of_mem hp)) h

theorem readable_junction {es : List Expr} {parts : List String} {sql : String}
    {empty : QueryError} (c : Connective) (keyword : String)
    (hword : c.word = " " ++ keyword ++ " ")
    {e : Expr} (hd : e.isDelimited = Expr.isDelimitedJunction es)
    (hnf : e.normalForm = .junction c.combine (Expr.normalForms es))
    (ih : ∀ e ∈ es, ∀ {sql}, Native.target.render .nested e = .ok sql → Readable e sql)
    (hparts : Native.target.renderAll es = .ok parts)
    (hsql : junction keyword empty parts = .ok sql) : Readable e sql := by
  rw [Target.renderAll_eq_ok] at hparts
  obtain rfl | ⟨hlen, rfl⟩ := Target.junction_eq_ok.1 hsql
  · obtain _ | ⟨he, _ | _⟩ := hparts
    rename_i operand
    have hr := ih operand List.mem_cons_self he
    have hd : e.isDelimited = operand.isDelimited := hd
    have hnf : e.normalForm = operand.normalForm := hnf
    refine ⟨?_, ?_⟩
    · rw [hnf, Expr.delimit, hd]
      exact hr.asOperand
    · rw [hnf]
      exact hr.asCondition
  · have hes : 2 ≤ es.length := by rwa [hparts.length_eq]
    refine .of_operand ?_ fun n hn => ?_
    · rw [hd]
      match es with
      | _ :: _ :: _ => rfl
    · have hcombine : e.normalForm = c.combine (Expr.normalForms es) := by
        rw [hnf]
        match es with
        | _ :: _ :: _ => rfl
      simp only [← hword, String.toList_append, String.toList_intercalate] at hn ⊢
      have hpart : (c.word.toList.intercalate (parts.map String.toList)).length < n := by
        simp only [List.length_append, length_closing] at hn
        omega
      have hread := conditions_read ih hparts (part_lt c.word hpart)
      intro rest _
      have hgroup := group_connective c hread (by simpa using hlen) rest
      rw [hcombine]
      simp only [List.append_assoc] at hgroup ⊢
      exact hgroup

/-! ## calls -/

/-- Functions between operands take two arguments, and their symbol is a connective. -/
theorem connective_of_operator {f : ScalarFunction} {op : String} (h : f.operator? = some op) :
    f.arity = .exactly 2 ∧
      ∃ c : Connective, c.word = " " ++ op ++ " " ∧ c.combine = .scalar f := by
  cases f with
  | add => cases h; exact ⟨rfl, .add, rfl, rfl⟩
  | sub => cases h; exact ⟨rfl, .sub, rfl, rfl⟩
  | mult => cases h; exact ⟨rfl, .mult, rfl, rfl⟩
  | floatDiv => cases h; exact ⟨rfl, .floatDiv, rfl, rfl⟩
  | _ => cases h

/-- Only keywords take no arguments. -/
theorem pos_of_admits {f : ScalarFunction} {n : Nat} (h : f.arity.admits n = true)
    (hk : f.isKeyword = false) : 0 < n := by
  have hleast : 0 < f.arity.least := by
    revert hk
    cases f <;> decide
  simp only [Arity.admits, Bool.and_eq_true, decide_eq_true_eq] at h
  omega

/-- The native forms of a scalar call. -/
inductive ScalarForm (f : ScalarFunction) (parts : List String) (text : List Char) : Prop
  | chain (c : Connective) (hc : c.combine = .scalar f) (hlen : parts.length = 2)
      (h : text = "(".toList ++ (c.word.toList.intercalate (parts.map String.toList) ++ ")".toList))
  | negation (hf : f = .neg) (hne : parts ≠ [])
      (h : text = "-(".toList ++ (", ".toList.intercalate (parts.map String.toList) ++ ")".toList))
  | keyword (hf : f = .currentDate ∨ f = .currentTimestamp) (hnil : parts = [])
      (h : text = f.name.toList)
  | call (hne : parts ≠ [])
      (h : text = f.name.toList ++ ("(".toList ++
        (", ".toList.intercalate (parts.map String.toList) ++ ")".toList)))

theorem scalarForm_native {f : ScalarFunction} {parts : List String}
    (harity : f.arity.admits parts.length = true) :
    ScalarForm f parts (Native.target.plainScalar f parts).toList := by
  cases hop : f.operator? with
  | some op =>
    obtain ⟨htwo, c, hword, hcombine⟩ := connective_of_operator hop
    rw [htwo] at harity
    refine .chain c hcombine (eq_of_admits_exactly harity) ?_
    simp only [Target.plainScalar, hop, Calls.operatorChain, ← hword, String.toList_append,
      String.toList_intercalate, List.append_assoc]
  | none =>
    by_cases hneg : f = .neg
    · subst hneg
      refine .negation rfl (List.ne_nil_of_length_pos (pos_of_admits harity rfl)) ?_
      simp only [Target.plainScalar, hop, if_true, Calls.negate, String.toList_append,
        String.toList_intercalate, List.append_assoc]
    · cases hkey : f.isKeyword with
      | true =>
        have hf : f = .currentDate ∨ f = .currentTimestamp := by
          revert hkey
          cases f <;> decide
        have hnil : parts = [] := by
          obtain rfl | rfl := hf <;> exact List.length_eq_zero_iff.1 (eq_of_admits_exactly harity)
        refine .keyword hf hnil ?_
        simp only [Target.plainScalar, hop, if_neg hneg, hkey, if_true]
        rfl
      | false =>
        refine .call (List.ne_nil_of_length_pos (pos_of_admits harity hkey)) ?_
        simp only [Target.plainScalar, hop, if_neg hneg, hkey, Bool.false_eq_true, if_false,
          Calls.call, String.toList_append, String.toList_intercalate, List.append_assoc]
        rfl

theorem ScalarForm.part_lt {f : ScalarFunction} {parts : List String} {text : List Char}
    (h : ScalarForm f parts text) : ∀ part ∈ parts, part.toList.length < text.length := by
  cases h with
  | keyword hf hnil h =>
    rw [hnil]
    exact fun part hp => absurd hp List.not_mem_nil
  | chain c hc hlen h =>
    refine RemoteQuery.part_lt c.word ?_
    simp only [h, List.length_append, length_closing]
    omega
  | negation hf hne h =>
    refine RemoteQuery.part_lt ", " ?_
    simp only [h, List.length_append, length_closing]
    omega
  | call hne h =>
    refine RemoteQuery.part_lt ", " ?_
    simp only [h, List.length_append, length_closing]
    omega

theorem ScalarForm.reads {f : ScalarFunction} {parts : List String} {text : List Char}
    {operand : Reader NormalForm} {values : List NormalForm} (h : ScalarForm f parts text)
    (hread : List.Forall₂ (operand.Reads endsOperand) (parts.map String.toList) values) :
    (operandWith operand).Reads endsOperand text (.scalar f values) := by
  cases h with
  | chain c hc hlen h =>
    intro rest _
    have hcond := hread.imp fun _ _ h => condition_operand h
    have hgroup := group_connective c hcond (by simp [hlen]) rest
    rw [hc] at hgroup
    rw [h]
    simp only [List.append_assoc] at hgroup ⊢
    exact hgroup
  | negation hf hne h =>
    rw [h, hf]
    exact operandWith_negate hread (by simpa using hne)
  | keyword hf hnil h =>
    rw [hnil] at hread
    cases hread
    rw [h]
    obtain rfl | rfl := hf
    · exact operandWith_currentDate
    · exact operandWith_currentTimestamp
  | call hne h =>
    rw [h]
    exact operandWith_scalar f hread (by simpa using hne)

theorem readable_scalar {f : ScalarFunction} {args : List Expr} {sql : String}
    (ih : ∀ e ∈ args, ∀ {sql}, Native.target.render .nested e = .ok sql → Readable e sql)
    (h : Native.target.render .nested (.scalar f args) = .ok sql) :
    Readable (.scalar f args) sql := by
  obtain ⟨harity, parts, hparts, rfl⟩ := Target.render_scalar.1 h
  rw [Target.renderOperands_eq_ok] at hparts
  rw [hparts.length_eq] at harity
  have hform := scalarForm_native harity
  refine .of_operand rfl fun n hn => ?_
  refine hform.reads (operands_read ih hparts fun part hp => ?_)
  exact Nat.lt_of_lt_of_le (hform.part_lt part hp) hn

/-- The native forms of an aggregate call. -/
inductive AggregateForm (f : AggregateFunction) (parts : List String) (distinct : Bool)
    (order separator : Option String) (text : List Char) : Prop
  | rows (hf : f = .count) (hnil : parts = []) (hd : distinct = false)
      (h : text = "COUNT(*)".toList)
  | plain (hf : f ≠ .groupConcat) (hne : parts ≠ [])
      (h : text = f.name.toList ++ ("(".toList ++
        ((if distinct then "DISTINCT " else "").toList ++
          (", ".toList.intercalate (parts.map String.toList) ++ ")".toList))))
  | concat (part : String) (hf : f = .groupConcat) (hone : parts = [part])
      (h : text = "GROUP_CONCAT".toList ++ ("(".toList ++
        ((if distinct then "DISTINCT " else "").toList ++ (part.toList ++ (" ORDER BY ".toList ++
          ((order.getD part).toList ++ (" SEPARATOR ".toList ++
            ((Text.stringLiteral (separator.getD ",")).toList ++ ")".toList))))))))

theorem aggregateForm_native {f : AggregateFunction} {parts : List String} {distinct : Bool}
    {order separator : Option String} (harity : f.arity.admits parts.length = true)
    (hd : ¬(distinct = true ∧ parts = [])) :
    AggregateForm f parts distinct order separator
      (Native.target.aggregateText ⟨f, parts, distinct, order, separator⟩).toList := by
  have htext : Native.target.aggregateText ⟨f, parts, distinct, order, separator⟩ =
      Native.target.plainAggregate ⟨f, parts, distinct, order, separator⟩ := rfl
  have hname : Native.target.profile.aggregateName f = f.name := rfl
  rw [htext, Target.plainAggregate]
  split
  next hrows =>
    obtain ⟨hf, hnil⟩ : f = .count ∧ parts = [] := hrows
    exact .rows hf hnil (by simpa [hnil] using hd) rfl
  next hrows =>
    split
    next hf =>
      have hf : f = .groupConcat := hf
      rw [hf] at harity
      obtain ⟨part, rfl⟩ := List.length_eq_one_iff.1 (eq_of_admits_exactly harity)
      refine .concat part hf rfl ?_
      rw [hf]
      simp only [AggregateText.separatorClause, AggregateText.distinctWord, AggregateText.arg,
        AggregateText.orderOrSelf, AggregateText.separatorLiteral, String.toList_append,
        List.append_assoc, List.head?_cons, Option.getD_some]
      rfl
    next hf =>
      have hne : parts ≠ [] := by
        have hcount : f.arity.admits 0 = true → f = .count := by cases f <;> decide
        rintro rfl
        exact hrows ⟨hcount harity, rfl⟩
      refine .plain hf hne ?_
      simp only [hname, AggregateText.distinctWord, String.toList_append,
        String.toList_intercalate, List.append_assoc]

theorem order_read {orderBy : List (OrderKey Expr)} {keys : List String} {part : String}
    {value : NormalForm} {n : Nat}
    (ihk : ∀ k ∈ orderBy, ∀ {sql}, Native.target.render .nested k.expr = .ok sql →
      Readable k.expr sql)
    (hkeys : Native.target.renderKeys orderBy = .ok keys)
    (hpart : (operand n).Reads endsOperand part.toList value)
    (hn : (((Target.orderText orderBy keys).getD part).toList).length < n) (cs : List Char) :
    order (operand n) (((Target.orderText orderBy keys).getD part).toList ++
      (" SEPARATOR '".toList ++ cs)) =
        some (Expr.keyForms orderBy, " SEPARATOR '".toList ++ cs) := by
  cases orderBy with
  | nil => exact order_none hpart rfl rfl
  | cons k ks =>
    have htext : ((Target.orderText (k :: ks) keys).getD part).toList =
        ", ".toList.intercalate (keys.map String.toList) := by
      simp [Target.orderText]
    rw [htext] at hn ⊢
    have hread := keys_read ihk hkeys (part_lt ", " hn)
    refine order_keys hread ?_ rfl
    rintro hnil
    have hlen := hread.length_eq
    rw [hnil, Expr.keyForms_eq] at hlen
    cases hlen

theorem readable_aggregate {f : AggregateFunction} {args : List Expr} {distinct : Bool}
    {orderBy : List (OrderKey Expr)} {separator : Option String} {sql : String}
    (ih : ∀ e ∈ args, ∀ {sql}, Native.target.render .nested e = .ok sql → Readable e sql)
    (ihk : ∀ k ∈ orderBy, ∀ {sql}, Native.target.render .nested k.expr = .ok sql →
      Readable k.expr sql)
    (h : Native.target.render .nested (.aggregate f args distinct orderBy separator) = .ok sql) :
    Readable (.aggregate f args distinct orderBy separator) sql := by
  obtain ⟨harity, hd, parts, keys, hparts, hkeys, rfl⟩ := Target.render_aggregate.1 h
  rw [Target.renderOperands_eq_ok] at hparts
  have hnil : args = [] ↔ parts = [] := by
    rw [← List.length_eq_zero_iff, hparts.length_eq, List.length_eq_zero_iff]
  rw [hparts.length_eq] at harity
  rw [hnil] at hd
  refine .of_operand rfl fun n hn => ?_
  have hcall : Native.target.callText (Native.target.profile.castsAggregate f) .nested
      (Native.target.aggregateText ⟨f, parts, distinct, Target.orderText orderBy keys, separator⟩) =
      Native.target.aggregateText ⟨f, parts, distinct, Target.orderText orderBy keys, separator⟩ :=
    rfl
  rw [hcall] at hn ⊢
  have hform : AggregateForm f parts distinct (Target.orderText orderBy keys) separator
      (Native.target.aggregateText
        ⟨f, parts, distinct, Target.orderText orderBy keys, separator⟩).toList :=
    aggregateForm_native harity hd
  cases hform with
  | rows hf hnil' hd' h =>
    rw [h, hf, hd', hnil.2 hnil']
    exact operandWith_countRows (operand_star n)
  | plain hf hne h =>
    rw [h] at hn ⊢
    have hnf : (Expr.aggregate f args distinct orderBy separator).normalForm =
        .aggregate f (Expr.normalForms args) distinct [] none := if_neg hf
    have hlen : (", ".toList.intercalate (parts.map String.toList)).length < n := by
      simp only [List.length_append, length_closing] at hn
      omega
    rw [hnf]
    exact operandWith_plainAggregate hf (operand_distinct n)
      (operands_read ih hparts (part_lt ", " hlen)) (by simpa using hne) distinct
  | concat part hf hone h =>
    rw [h] at hn ⊢
    rw [hone] at hparts
    obtain _ | ⟨hpart, _ | _⟩ := hparts
    rename_i arg
    rw [hf]
    have hnf : (Expr.aggregate .groupConcat [arg] distinct orderBy separator).normalForm =
        .aggregate .groupConcat [arg.normalForm] distinct (Expr.keyForms orderBy)
          (some (separator.getD ",")) := rfl
    rw [hnf]
    have hlen : part.toList.length < n ∧
        ((Target.orderText orderBy keys).getD part).toList.length < n := by
      simp only [List.length_append, length_closing] at hn
      omega
    have hread := operand_read (ih arg List.mem_cons_self) hpart hlen.1
    exact operandWith_groupConcat (operand_distinct n) hread
      (order_read ihk hkeys hread hlen.2) distinct _

/-! ## conditions -/

theorem readable_not {e : Expr} {inner : String} (ih : Readable e inner) :
    Readable (.not e) ("NOT (" ++ inner ++ ")") := by
  refine .of_condition rfl fun n hn => ?_
  rw [String.toList_append, String.toList_append] at hn ⊢
  cases n with
  | zero => exact absurd hn (Nat.not_lt_zero _)
  | succ n =>
    have hlen : inner.toList.length < n := by
      simp only [List.length_append, length_closing] at hn
      omega
    exact condition_operand (operandWith_not (ih.asCondition n hlen))

/-- Whatever has a native text is read back from it. -/
theorem readable {e : Expr} {sql : String} (h : Native.target.render .nested e = .ok sql) :
    Readable e sql := by
  induction e generalizing sql with
  | column c =>
    cases h
    exact .of_operand rfl fun n _ => operandWith_column c
  | literal l =>
    obtain ⟨text, htext, hsql⟩ := map_eq_ok.1 h
    have hsql : text = sql := by simpa using hsql
    subst hsql
    refine .of_operand rfl fun n _ => ?_
    rw [Expr.normalForm, htext]
    exact operandWith_literal htext
  | and es ih =>
    obtain ⟨parts, hparts, hsql⟩ := Target.render_and.1 h
    exact readable_junction .and "AND" rfl rfl rfl ih hparts hsql
  | or es ih =>
    obtain ⟨parts, hparts, hsql⟩ := Target.render_or.1 h
    exact readable_junction .or "OR" rfl rfl rfl ih hparts hsql
  | not e ih =>
    obtain ⟨inner, hinner, rfl⟩ := Target.render_not.1 h
    exact readable_not (ih hinner)
  | compare op l r ihl ihr =>
    obtain ⟨a, b, ha, hb, rfl⟩ := Target.render_compare.1 h
    refine .of_condition rfl fun n hn => ?_
    simp only [String.toList_append, List.length_append] at hn ⊢
    have hl := operand_read ihl ha (n := n) (by omega)
    have hr := operand_read ihr hb (n := n) (by omega)
    have hread := condition_compare op hl hr
    simp only [Test.word, String.toList_append, List.append_assoc] at hread ⊢
    exact hread
  | like e p ihe ihp =>
    obtain ⟨a, b, ha, hb, rfl⟩ := Target.render_like.1 h
    refine .of_condition rfl fun n hn => ?_
    simp only [String.toList_append, List.length_append] at hn ⊢
    have he := operand_read ihe ha (n := n) (by omega)
    have hp := operand_read ihp hb (n := n) (by omega)
    exact condition_like he hp
  | likeEscape e p x ihe ihp ihx =>
    obtain ⟨a, b, c, ha, hb, hc, rfl⟩ := Target.render_likeEscape.1 h
    refine .of_condition rfl fun n hn => ?_
    simp only [String.toList_append, List.length_append] at hn ⊢
    have he := operand_read ihe ha (n := n) (by omega)
    have hp := operand_read ihp hb (n := n) (by omega)
    have hx := operand_read ihx hc (n := n) (by omega)
    have hread := condition_likeEscape he hp hx
    simp only [List.append_assoc] at hread ⊢
    exact hread
  | between e l h ihe ihl ihh =>
    obtain ⟨a, b, c, ha, hb, hc, rfl⟩ := Target.render_between.1 h
    refine .of_condition rfl fun n hn => ?_
    simp only [String.toList_append, List.length_append] at hn ⊢
    have he := operand_read ihe ha (n := n) (by omega)
    have hl := operand_read ihl hb (n := n) (by omega)
    have hh := operand_read ihh hc (n := n) (by omega)
    have hread := condition_between he hl hh
    simp only [List.append_assoc] at hread ⊢
    exact hread
  | inList e es ihe ih =>
    obtain ⟨hne, a, parts, ha, hparts, rfl⟩ := Target.render_inList.1 h
    rw [Target.renderOperands_eq_ok] at hparts
    refine .of_condition rfl fun n hn => ?_
    simp only [String.toList_append, String.toList_intercalate, List.length_append] at hn ⊢
    have he := operand_read ihe ha (n := n) (by omega)
    have hes := operands_read ih hparts (n := n) (part_lt ", " (by omega))
    have hne : parts.map String.toList ≠ [] := by
      rw [← List.length_pos_iff, List.length_map, ← hparts.length_eq, List.length_pos_iff]
      exact hne
    have hread := condition_inList he hes hne
    simp only [List.append_assoc] at hread ⊢
    exact hread
  | isNull e negated ih =>
    obtain ⟨a, ha, rfl⟩ := Target.render_isNull.1 h
    refine .of_condition rfl fun n hn => ?_
    simp only [String.toList_append, List.length_append] at hn ⊢
    exact condition_isNull negated (operand_read ih ha (by omega))
  | scalar f args ih => exact readable_scalar ih h
  | aggregate f args distinct orderBy separator ih ihk => exact readable_aggregate ih ihk h

/-- **Unambiguous native text**: expressions with the same native text have the same normal form. -/
theorem Dialect.Native.normalForm_eq_of_render_eq {e₁ e₂ : Expr} {sql : String}
    (h₁ : Native.target.render .nested e₁ = .ok sql)
    (h₂ : Native.target.render .nested e₂ = .ok sql) : e₁.normalForm = e₂.normalForm := by
  have hr₁ := (readable h₁).asCondition _ (Nat.lt_succ_self _) [] rfl
  have hr₂ := (readable h₂).asCondition _ (Nat.lt_succ_self _) [] rfl
  rw [hr₁, Option.some.injEq, Prod.mk.injEq] at hr₂
  exact hr₂.1

/-- A separator that is left out and a junction of one operand leave no trace in the text. -/
theorem Dialect.Native.normalForm_eq_default_separator :
    Native.target.render .nested
        (.aggregate .groupConcat [.or [.column ⟨"T", none, 3, ⟨"A", .boolean, "BIT"⟩⟩]] true []
          none) =
      .ok "GROUP_CONCAT(DISTINCT T.A ORDER BY T.A SEPARATOR ',')" ∧
    Native.target.render .nested
        (.aggregate .groupConcat [.column ⟨"X", some "T", 0, ⟨"A", .date, "DATE"⟩⟩] true []
          (some ",")) =
      .ok "GROUP_CONCAT(DISTINCT T.A ORDER BY T.A SEPARATOR ',')" ∧
    (Expr.aggregate .groupConcat [.or [.column ⟨"T", none, 3, ⟨"A", .boolean, "BIT"⟩⟩]] true []
        none).normalForm =
      (Expr.aggregate .groupConcat [.column ⟨"X", some "T", 0, ⟨"A", .date, "DATE"⟩⟩] true []
        (some ",")).normalForm := by
  refine ⟨by decide +kernel, by decide +kernel, ?_⟩
  exact @normalForm_eq_of_render_eq _ _ "GROUP_CONCAT(DISTINCT T.A ORDER BY T.A SEPARATOR ',')"
    (by decide +kernel) (by decide +kernel)

end RemoteQuery
