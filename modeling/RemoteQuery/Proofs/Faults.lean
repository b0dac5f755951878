import RemoteQuery.Proofs.Built

/-!
# RemoteQuery.Proofs.Faults

When a query has no text.  A fault is a property of one expression and of the
target's profile; a query violates the rules of a target if a fault occurs in it
at any depth or if its list or its row limit cannot be written.

* `Target.exists_render_iff` — an expression has a text exactly when no fault
  occurs in it;
* `Target.exists_generate_iff` — a query has a text exactly when it does not
  violate the rules of the target;
* `Dialect.generate_fails_iff_violation` — a built dialect fails exactly on the
  queries that violate its rules, and always with a fault of the query.
-/

namespace RemoteQuery

/-- A fault at the root of an expression: a junction or a value list without members, a double
without a text, or a call with a number of arguments that is not accepted. -/
def Expr.HasFault (d : Profile) : Expr → Prop
  | .and es | .or es => es = []
  | .inList _ values => values = []
  | .literal (.double x) => x.isFinite = false
  | .scalar f args => (d.scalarArity f).admits args.length = false
  | .aggregate f args distinct _ _ =>
    f.arity.admits args.length = false ∨ (distinct = true ∧ args = [])
  | _ => False

/-- No fault occurs in the expression, at any depth. -/
def Expr.FaultFree (d : Profile) (e : Expr) : Prop :=
  ∀ x : Expr, x.Occurs e → ¬x.HasFault d

theorem Expr.faultFree_iff {d : Profile} {e : Expr} :
    e.FaultFree d ↔ ¬e.HasFault d ∧ ∀ c ∈ e.children, c.FaultFree d :=
  forall_occurs_iff

/-- What keeps a query from having a text under a profile. -/
inductive Select.Violation (d : Profile) (s : Select) : Prop
  /-- There is a row limit without a count. -/
  | countMissing {offset : Option UInt64} (h : s.limit = some ⟨none, offset⟩)
  /-- Rows are to be skipped, which the way of limiting cannot express. -/
  | offsetUnsupported {count : Option UInt64} {offset : UInt64}
      (h : s.limit = some ⟨count, some offset⟩)
      (hs : d.limitStrategy = .fetchFirst ∨ d.limitStrategy = .top)
  /-- The last row number of the window has more than 64 bits. -/
  | windowOverflow {count offset : UInt64} (h : s.limit = some ⟨some count, some offset⟩)
      (hs : d.limitStrategy = .rowNum) (hw : UInt64.size ≤ count.toNat + offset.toNat)
  /-- The columns have to be named one by one, and none is declared. -/
  | starWithoutColumns {count : Option UInt64} {offset : UInt64}
      (h : s.limit = some ⟨count, some offset⟩) (hs : d.limitStrategy = .rowNum)
      (hl : s.selectList = .star) (hc : s.source.columns = [])
  /-- The select list has no items. -/
  | emptyList (h : s.selectList = .exprs [])
  /-- A fault occurs in one of the clauses. -/
  | fault {x : Expr} (h : s.Occurs x) (hx : x.HasFault d)

/-- A query does not violate the rules when its list has items, no fault occurs in it, and its row
limit has a count and a window that can be expressed. -/
theorem Select.not_violation_iff {d : Profile} {s : Select} :
    ¬s.Violation d ↔ s.selectList ≠ .exprs [] ∧ (∀ e ∈ s.expressions, e.FaultFree d) ∧
      ∀ l, s.limit = some l → ∃ count, l.count = some count ∧ ∀ m, l.offset = some m →
        ¬(d.limitStrategy = .fetchFirst ∨ d.limitStrategy = .top) ∧
        ¬(d.limitStrategy = .rowNum ∧ UInt64.size ≤ count.toNat + m.toNat) ∧
        ¬(d.limitStrategy = .rowNum ∧ s.selectList = .star ∧ s.source.columns = []) := by
  constructor
  · intro h
    refine ⟨fun hl => h (.emptyList hl), fun e he x hx hf => h (.fault ⟨e, he, hx⟩ hf), ?_⟩
    rintro ⟨count, offset⟩ hl
    cases count with
    | none => exact absurd (.countMissing hl) h
    | some count =>
      refine ⟨count, rfl, fun m hm => ?_⟩
      rw [show offset = some m from hm] at hl
      exact ⟨fun hs => h (.offsetUnsupported hl hs),
        fun hw => h (.windowOverflow hl hw.1 hw.2),
        fun hc => h (.starWithoutColumns hl hc.1 hc.2.1 hc.2.2)⟩
  · rintro ⟨hlist, hfree, hlimit⟩ hv
    cases hv with
    | countMissing h =>
      obtain ⟨count, hc, _⟩ := hlimit _ h
      contradiction
    | offsetUnsupported h hs =>
      obtain ⟨count, _, hm⟩ := hlimit _ h
      exact (hm _ rfl).1 hs
    | windowOverflow h hs hw =>
      obtain ⟨count, hc, hm⟩ := hlimit _ h
      cases hc
      exact (hm _ rfl).2.1 ⟨hs, hw⟩
    | starWithoutColumns h hs hl hc =>
      obtain ⟨count, _, hm⟩ := hlimit _ h
      exact (hm _ rfl).2.2 ⟨hs, hl, hc⟩
    | emptyList h => exact hlist h
    | fault h hx =>
      obtain ⟨e, he, hxe⟩ := h
      exact hfree e he _ hxe hx

/-! ## expressions -/

/-- A list can be related member by member to some list when each member can be. -/
theorem exists_forall₂ {α β : Type} {R : α → β → Prop} {l : List α} :
    (∃ m, List.Forall₂ R l m) ↔ ∀ a ∈ l, ∃ b, R a b := by
  induction l with
  | nil => simp
  | cons a l ih =>
    rw [List.forall_mem_cons, ← ih]
    constructor
    · rintro ⟨_, h⟩
      cases h with
      | cons hab htl => exact ⟨⟨_, hab⟩, _, htl⟩
    · rintro ⟨⟨b, hab⟩, m, htl⟩
      exact ⟨b :: m, .cons hab htl⟩

namespace Target

variable {t : Target} {p : Position}

theorem exists_renderAll {es : List Expr} :
    (∃ sqls, t.renderAll es = .ok sqls) ↔ ∀ e ∈ es, ∃ sql, t.render .nested e = .ok sql := by
  simp only [renderAll_eq_ok, exists_forall₂]

theorem exists_renderOperands {es : List Expr} :
    (∃ sqls, t.renderOperands es = .ok sqls) ↔ ∀ e ∈ es, ∃ sql, t.render .nested e = .ok sql := by
  simp only [renderOperands_eq_ok, exists_forall₂, exists_renderOperand]

theorem exists_renderItems {es : List Expr} :
    (∃ sqls, t.renderItems es = .ok sqls) ↔ ∀ e ∈ es, ∃ sql, t.render .selectList e = .ok sql := by
  simp only [renderItems_eq_ok, exists_forall₂]

theorem exists_renderKeys {ks : List (OrderKey Expr)} :
    (∃ texts, t.renderKeys ks = .ok texts) ↔
      ∀ k ∈ ks, ∃ sql, t.render .nested k.expr = .ok sql := by
  constructor
  · rintro ⟨_, h⟩ k hk
    obtain ⟨parts, hparts, _⟩ := renderKeys_eq_ok.1 h
    obtain ⟨_, sql, hsql, _⟩ := exists_forall₂.1 ⟨parts, hparts⟩ k hk
    exact ⟨sql, hsql⟩
  · intro h
    have hkeys : ∀ k ∈ ks, ∃ part, ∃ sql, t.render .nested k.expr = .ok sql ∧
        t.keyTexts k sql = part := by
      intro k hk
      obtain ⟨sql, hsql⟩ := h k hk
      exact ⟨_, sql, hsql, rfl⟩
    obtain ⟨parts, hparts⟩ := exists_forall₂.2 hkeys
    exact ⟨_, renderKeys_eq_ok.2 ⟨parts, hparts, rfl⟩⟩

/-- A junction has a text when it has an operand and every operand has one. -/
theorem exists_junction {keyword : String} {empty : QueryError} {es : List Expr} :
    (∃ sql parts, t.renderAll es = .ok parts ∧ junction keyword empty parts = .ok sql) ↔
      es ≠ [] ∧ ∀ e ∈ es, ∃ sql, t.render .nested e = .ok sql := by
  rw [← exists_renderAll]
  constructor
  · rintro ⟨sql, parts, hparts, hsql⟩
    refine ⟨?_, parts, hparts⟩
    rintro rfl
    simp only [renderAll, Except.ok.injEq] at hparts
    subst hparts
    simp [junction] at hsql
  · rintro ⟨hne, parts, hparts⟩
    have hlen := (renderAll_eq_ok.1 hparts).length_eq
    cases parts with
    | nil => exact absurd (List.length_eq_zero_iff.1 hlen) hne
    | cons part parts =>
      cases parts with
      | nil => exact ⟨part, [part], hparts, rfl⟩
      | cons next parts => exact ⟨_, part :: next :: parts, hparts, rfl⟩

/-- A literal has a text unless it is a double that is not finite. -/
theorem exists_literalText {l : Literal} :
    (∃ sql, t.literalText l p = .ok sql) ↔ ¬(Expr.literal l).HasFault t.profile := by
  cases l with
  | double x =>
    cases hx : x.isFinite <;> simp [literalText, plainLiteral, Except.map, Expr.HasFault, hx]
  | _ => simp [literalText, plainLiteral, Except.map, Expr.HasFault]

/-- An expression has a text exactly when no fault occurs in it; where it stands does not matter.
-/
theorem exists_render_iff (t : Target) (p : Position) (e : Expr) :
    (∃ sql, t.render p e = .ok sql) ↔ e.FaultFree t.profile := by
  induction e generalizing p with
  | column c =>
    rw [Expr.faultFree_iff]
    simp [render_column, Expr.children, Expr.operands, Expr.HasFault]
  | literal l =>
    rw [Expr.faultFree_iff]
    simpa [render_literal, Expr.children, Expr.operands] using exists_literalText
  | and es ih =>
    rw [Expr.faultFree_iff]
    simp only [render_and]
    rw [exists_junction]
    exact and_congr Iff.rfl (forall₂_congr fun e he => ih e he .nested)
  | or es ih =>
    rw [Expr.faultFree_iff]
    simp only [render_or]
    rw [exists_junction]
    exact and_congr Iff.rfl (forall₂_congr fun e he => ih e he .nested)
  | not e ih =>
    rw [Expr.faultFree_iff]
    simp [render_not, Expr.children, Expr.operands, Expr.HasFault, ← ih .nested]
  | compare op l r ihl ihr =>
    rw [Expr.faultFree_iff]
    simp [render_compare, Expr.children, Expr.operands, Expr.HasFault, ← ihl .nested,
      ← ihr .nested, ← exists_renderOperand]
  | like e pattern ih ihp =>
    rw [Expr.faultFree_iff]
    simp [render_like, Expr.children, Expr.operands, Expr.HasFault, ← ih .nested,
      ← ihp .nested, ← exists_renderOperand]
  | likeEscape e pattern escape ih ihp ihx =>
    rw [Expr.faultFree_iff]
    simp [render_likeEscape, Expr.children, Expr.operands, Expr.HasFault, ← ih .nested,
      ← ihp .nested, ← ihx .nested, ← exists_renderOperand]
  | between e low high ih ihl ihh =>
    rw [Expr.faultFree_iff]
    simp [render_between, Expr.children, Expr.operands, Expr.HasFault, ← ih .nested,
      ← ihl .nested, ← ihh .nested, ← exists_renderOperand]
  | inList e values ih ihv =>
    have hv : (∃ parts, t.renderOperands values = .ok parts) ↔
        ∀ v ∈ values, v.FaultFree t.profile :=
      exists_renderOperands.trans (forall₂_congr fun v h => ihv v h .nested)
    rw [Expr.faultFree_iff]
    simp [render_inList, Expr.children, Expr.operands, Expr.HasFault, ← ih .nested,
      ← exists_renderOperand, ← hv]
  | isNull e negated ih =>
    rw [Expr.faultFree_iff]
    simp [render_isNull, Expr.children, Expr.operands, Expr.HasFault, ← ih .nested,
      ← exists_renderOperand]
  | scalar f args ih =>
    have ha : (∃ parts, t.renderOperands args = .ok parts) ↔
        ∀ e ∈ args, e.FaultFree t.profile :=
      exists_renderOperands.trans (forall₂_congr fun e h => ih e h .nested)
    rw [Expr.faultFree_iff]
    simp [render_scalar, Expr.children, Expr.HasFault, ← ha]
  | aggregate f args distinct orderBy separator ih ihk =>
    have ha : (∃ parts, t.renderOperands args = .ok parts) ↔
        ∀ e ∈ args, e.FaultFree t.profile :=
      exists_renderOperands.trans (forall₂_congr fun e h => ih e h .nested)
    have hk : (∃ keys, t.renderKeys orderBy = .ok keys) ↔
        ∀ k ∈ orderBy, k.expr.FaultFree t.profile :=
      exists_renderKeys.trans (forall₂_congr fun k h => ihk k h .nested)
    rw [Expr.faultFree_iff]
    simp [render_aggregate, Expr.children, Expr.HasFault, or_imp, forall_and, ← ha, ← hk,
      and_assoc]

/-! ## queries -/

theorem exists_clauseText {keyword : String} {clause : Option Expr} :
    (∃ sql, t.clauseText keyword clause = .ok sql) ↔
      ∀ e ∈ clause.toList, e.FaultFree t.profile := by
  cases clause with
  | none => simp [clauseText_eq_ok]
  | some e => simp [clauseText_eq_ok, ← exists_render_iff t .nested]

theorem exists_groupByText {keys : List Expr} :
    (∃ sql, t.groupByText keys = .ok sql) ↔ ∀ e ∈ keys, e.FaultFree t.profile := by
  simp only [← exists_render_iff t .nested, groupByText_eq_ok]
  rw [← exists_renderAll]
  cases keys with
  | nil => simp [renderAll]
  | cons e es => simp

theorem exists_orderByText {keys : List (OrderKey Expr)} :
    (∃ sql, t.orderByText keys = .ok sql) ↔ ∀ k ∈ keys, k.expr.FaultFree t.profile := by
  simp only [← exists_render_iff t .nested, orderByText_eq_ok]
  rw [← exists_renderKeys]
  cases keys with
  | nil => simp [renderKeys]
  | cons k ks => simp

/-- Everything after the select list has a text when no fault occurs in it. -/
theorem exists_clauses {s : Select} :
    (∃ sql, t.clauses s = .ok sql) ↔
      (∀ e ∈ s.filter.toList, e.FaultFree t.profile) ∧
      (∀ e ∈ s.groupBy, e.FaultFree t.profile) ∧
      (∀ e ∈ s.having.toList, e.FaultFree t.profile) ∧
      ∀ k ∈ s.orderBy, k.expr.FaultFree t.profile := by
  rw [← @exists_clauseText t " WHERE " s.filter, ← @exists_clauseText t " HAVING " s.having,
    ← exists_groupByText, ← exists_orderByText]
  simp [clauses_eq_ok]

/-- The select list has a text when it has items without faults; a star that has to be written out
needs declared columns.  Where no alias is asked for, a star without columns is kept. -/
theorem exists_selectItems {s : Select} {aliases : Bool} :
    (∃ items, t.selectItems s aliases = .ok items) ↔
      s.selectList ≠ .exprs [] ∧ (∀ e ∈ s.selectList.items, e.FaultFree t.profile) ∧
      ¬(aliases = true ∧ s.selectList = .star ∧ s.source.columns = []) := by
  have hplain : (∃ items, t.selectItems s aliases = .ok items) ↔
      ∃ plain, t.listItems s aliases = .ok plain := by
    simp [selectItems_eq_ok]
  rw [hplain, listItems]
  cases hl : s.selectList with
  | star =>
    by_cases hc : s.source.columns = []
    · have hany : t.transportsAny s.source = false := by
        simp [transportsAny, TableRef.allColumns, hc]
      cases aliases <;> simp [SelectList.items, starItems, hany, hc]
    · by_cases hw : (aliases || t.transportsAny s.source) = true
      · simp [SelectList.items, starItems, hw, hc]
      · simp [SelectList.items, hw, hc]
  | anyColumn => simp [SelectList.items]
  | exprs es =>
    cases es with
    | nil => simp
    | cons e es =>
      simp only [SelectList.items, ← exists_render_iff t .selectList]
      rw [← exists_renderItems]
      simp

/-- The query without its row limit has a text when its list and its clauses have one. -/
theorem exists_innerQuery {s : Select} {request : InnerRequest} :
    (∃ inner, t.innerQuery s request = .ok inner) ↔
      s.selectList ≠ .exprs [] ∧ (∀ e ∈ s.expressions, e.FaultFree t.profile) ∧
      ¬(request.positionalAliases = true ∧ s.selectList = .star ∧ s.source.columns = []) := by
  have hsplit : (∃ inner, t.innerQuery s request = .ok inner) ↔
      (∃ items, t.selectItems s request.positionalAliases = .ok items) ∧
        ∃ rest, t.clauses s = .ok rest := by
    simp [innerQuery_eq_ok]
  rw [hsplit, exists_selectItems, exists_clauses]
  simp only [Select.expressions, List.forall_mem_append, List.forall_mem_map]
  grind

/-- A row limit can be planned unless it skips rows where that cannot be said, or the last row
number of its window has more than 64 bits. -/
theorem exists_plan {strategy : LimitStrategy} {count : UInt64} {offset : Option UInt64} :
    (∃ plan, strategy.plan count offset = .ok plan) ↔
      ∀ m, offset = some m → ¬(strategy = .fetchFirst ∨ strategy = .top) ∧
        ¬(strategy = .rowNum ∧ UInt64.size ≤ count.toNat + m.toNat) := by
  cases offset with
  | none => cases strategy <;> simp [LimitStrategy.plan]
  | some m =>
    cases strategy with
    | rowNum =>
      by_cases hw : count.toNat + m.toNat < UInt64.size
      · simp [LimitStrategy.plan, hw]
      · simp [LimitStrategy.plan, hw]
    | _ => simp [LimitStrategy.plan]

/-- A planned limit asks for aliases exactly when rows are skipped by their row number. -/
theorem positionalAliases_of_plan {strategy : LimitStrategy} {count : UInt64}
    {offset : Option UInt64} {plan : LimitPlan} (h : strategy.plan count offset = .ok plan) :
    plan.request.positionalAliases = true ↔ strategy = .rowNum ∧ offset.isSome := by
  match strategy, offset, h with
  | .trailing, none, h | .trailing, some _, h | .fetchFirst, none, h | .top, none, h
  | .rowNum, none, h =>
    cases h
    simp [LimitPlan.rowNumFirst]
  | .rowNum, some m, h =>
    simp only [LimitStrategy.plan] at h
    split at h
    · cases h
      simp [LimitPlan.rowNumWindow]
    · contradiction
  | .fetchFirst, some _, h | .top, some _, h => contradiction

/-- **A query has a text** exactly when it does not violate the rules of the target. -/
theorem exists_generate_iff (t : Target) (s : Select) :
    (∃ sql, t.generate s = .ok sql) ↔ ¬s.Violation t.profile := by
  rw [Select.not_violation_iff]
  constructor
  · rintro ⟨sql, h⟩
    rcases generate_eq_ok.1 h with ⟨hl, inner, hi, _⟩ | ⟨count, offset, plan, inner, hl, hp, hi, _⟩
    · obtain ⟨hlist, hfree, _⟩ := exists_innerQuery.1 ⟨inner, hi⟩
      exact ⟨hlist, hfree, fun l h => by simp [hl] at h⟩
    · obtain ⟨hlist, hfree, hstar⟩ := exists_innerQuery.1 ⟨inner, hi⟩
      refine ⟨hlist, hfree, fun l h => ?_⟩
      obtain rfl : ⟨some count, offset⟩ = l := Option.some.inj (hl.symm.trans h)
      refine ⟨count, rfl, fun m hm => ?_⟩
      obtain ⟨hsupported, hwindow⟩ := exists_plan.1 ⟨plan, hp⟩ m hm
      refine ⟨hsupported, hwindow, fun hc => hstar ⟨?_, hc.2⟩⟩
      exact (positionalAliases_of_plan hp).2 ⟨hc.1, by simp [show offset = some m from hm]⟩
  · rintro ⟨hlist, hfree, hlimit⟩
    cases hl : s.limit with
    | none =>
      have hplain : ∃ inner, t.innerQuery s {} = .ok inner :=
        exists_innerQuery.2 ⟨hlist, hfree, by simp⟩
      obtain ⟨inner, hi⟩ := hplain
      exact ⟨_, generate_eq_ok.2 (.inl ⟨hl, inner, hi, rfl⟩)⟩
    | some l =>
      obtain ⟨count, hcount, hm⟩ := hlimit l hl
      obtain ⟨plan, hp⟩ := exists_plan.2 fun m h => ⟨(hm m h).1, (hm m h).2.1⟩
      have haliases : ¬(plan.request.positionalAliases = true ∧ s.selectList = .star ∧
          s.source.columns = []) := by
        rintro ⟨ha, hc⟩
        obtain ⟨hs, hsome⟩ := (positionalAliases_of_plan hp).1 ha
        obtain ⟨m, hoff⟩ := Option.isSome_iff_exists.1 hsome
        exact (hm m hoff).2.2 ⟨hs, hc⟩
      obtain ⟨inner, hi⟩ := exists_innerQuery.2 ⟨hlist, hfree, haliases⟩
      have hcount' : s.limit = some ⟨some count, l.offset⟩ := by rw [hl, ← hcount]
      exact ⟨_, generate_eq_ok.2 (.inr ⟨count, l.offset, plan, inner, hcount', hp, hi, rfl⟩)⟩

end Target

namespace Dialect

/-- **Generation fails exactly on violations.**  A built dialect fails on a query exactly when the
query violates the rules of the dialect, and every such fault is one of the query. -/
theorem generate_fails_iff_violation {d : Dialect} {p : Properties} {t : Target}
    (h : d.target p = .ok t) (s : Select) :
    ((∃ err, d.generate p s = .error err) ↔ s.Violation t.profile) ∧
      ∀ err, d.generate p s = .error err → ∃ cause, err = .query cause := by
  constructor
  · rw [← not_ok_iff_error, not_iff_comm, ← Target.exists_generate_iff]
    simp only [generate_eq_ok_iff h]
  · intro err herr
    rw [generate, h] at herr
    cases hs : t.generate s with
    | ok sql => simp [hs, bind, Except.bind, Except.mapError] at herr
    | error cause =>
      refine ⟨cause, ?_⟩
      simpa [hs, bind, Except.bind, Except.mapError, eq_comm] using herr

/-- A window of rows of a table without declared columns has no text where rows are numbered. -/
theorem generate_fails_oracle_star :
    oracle.target {} = .ok (Oracle.targetOf none) ∧ ∃ cause,
      oracle.generate {} (((Select.ofTable { name := "ORDERS" }).withLimit 10).withOffset 5) =
        .error (.query cause) := by
  have hbuilt : oracle.target {} = .ok (Oracle.targetOf none) := rfl
  obtain ⟨hfails, hcause⟩ := generate_fails_iff_violation hbuilt
    (((Select.ofTable { name := "ORDERS" }).withLimit 10).withOffset 5)
  obtain ⟨err, herr⟩ := hfails.2 (.starWithoutColumns rfl rfl rfl rfl)
  obtain ⟨cause, rfl⟩ := hcause err herr
  exact ⟨hbuilt, cause, herr⟩

end Dialect

end RemoteQuery
