import RemoteQuery.Query.Build
import RemoteQuery.Proofs.Rendering

/-!
# RemoteQuery.Proofs.SelectListRules

Five rules of a target are about the items of the select list alone.  No other
text depends on them: a target may exchange all five and writes every nested
expression, and everything after the select list, as before.

* `Target.render_nested_withListRules` — a nested expression does not depend on
  the rules;
* `Target.render_selectList` — an item of the select list is the nested text in
  at most one wrap, chosen by the root of the expression;
* `Target.listRules_outermost` — both, and what follows for a whole query.
-/

namespace RemoteQuery

/-- The rules of a target about the items of the select list. -/
structure SelectListRules where
  transportForm : ColumnMetadata → String → Option String
  selectedNumber : String → String
  castAggregates : List AggregateFunction
  castScalars : List ScalarFunction
  doubleType : String

namespace Target

/-- The target with other rules for the select list.  Two targets that agree on everything else are
one of them and this one with the rules of the other. -/
def withListRules (t : Target) (r : SelectListRules) : Target :=
  { t with
    profile := { t.profile with
      castAggregates := r.castAggregates
      castScalars := r.castScalars
      doubleType := r.doubleType }
    transportForm := r.transportForm
    selectedNumber := r.selectedNumber }

/-- What becomes of the nested text of an expression that stands directly in the select list. -/
def outermost (t : Target) : Expr → String → String
  | .column c, sql => (t.transportForm c.metadata sql).getD sql
  | .literal (.exactNumeric _), sql | .literal (.double _), sql => t.selectedNumber sql
  | .scalar f _, sql =>
    if t.profile.castsScalar f then Calls.cast sql t.profile.doubleType else sql
  | .aggregate f _ _ _ _, sql =>
    if t.profile.castsAggregate f then Calls.cast sql t.profile.doubleType else sql
  | _, sql => sql

/-- Two targets that write a query alike from the end of the select list on, or both fail to write
it for the same reason. -/
def AgreeAfterList (t u : Target) (s : Select) (request : InnerRequest) : Prop :=
  match t.innerQuery s request, u.innerQuery s request with
  | .ok inner, .ok inner' => ∃ items items' rest,
      t.selectItems s request.positionalAliases = .ok items ∧
      u.selectItems s request.positionalAliases = .ok items' ∧
      t.clauses s = .ok rest ∧ u.clauses s = .ok rest ∧
      inner.sql = "SELECT " ++ topText request ++ ", ".intercalate items ++ rest ∧
      inner'.sql = "SELECT " ++ topText request ++ ", ".intercalate items' ++ rest
  | .error fault, .error fault' => fault = fault'
  | _, _ => False

variable {t u : Target}

theorem callText_selectList (casts : Bool) (sql : String) :
    t.callText casts .selectList sql =
      if casts then Calls.cast (t.callText casts .nested sql) t.profile.doubleType
      else t.callText casts .nested sql := by
  simp [callText]

/-! ## targets that write nested expressions alike -/

theorem renderAll_congr {es : List Expr}
    (h : ∀ e ∈ es, u.render .nested e = t.render .nested e) : u.renderAll es = t.renderAll es := by
  induction es with
  | nil => rfl
  | cons e es ih =>
    obtain ⟨he, hes⟩ := List.forall_mem_cons.1 h
    rw [renderAll, renderAll, he, ih hes]

theorem renderOperands_congr {es : List Expr}
    (h : ∀ e ∈ es, u.render .nested e = t.render .nested e) :
    u.renderOperands es = t.renderOperands es := by
  induction es with
  | nil => rfl
  | cons e es ih =>
    obtain ⟨he, hes⟩ := List.forall_mem_cons.1 h
    rw [renderOperands, renderOperands, he, ih hes]

theorem renderKeys_congr {ks : List (OrderKey Expr)}
    (hkeys : u.profile.sortKeys = t.profile.sortKeys)
    (h : ∀ k ∈ ks, u.render .nested k.expr = t.render .nested k.expr) :
    u.renderKeys ks = t.renderKeys ks := by
  induction ks with
  | nil => rfl
  | cons k ks ih =>
    obtain ⟨hk, hks⟩ := List.forall_mem_cons.1 h
    rw [renderKeys, renderKeys, hk, ih hks, hkeys]

theorem sortKeys_withListRules (t : Target) (r : SelectListRules) :
    (t.withListRules r).profile.sortKeys = t.profile.sortKeys :=
  rfl

/-- The rules of the select list do not reach a nested expression.  The induction goes through the
operands, the arguments and the ordering keys, which are all written as nested ones. -/
theorem render_nested_withListRules (t : Target) (r : SelectListRules) (e : Expr) :
    (t.withListRules r).render .nested e = t.render .nested e := by
  induction e with
  | column c => rfl
  | literal l =>
    rw [render, render, literalText_nested, literalText_nested]
    rfl
  | and es ih => rw [render, render, renderAll_congr ih]
  | or es ih => rw [render, render, renderAll_congr ih]
  | not e ih => rw [render, render, ih]
  | compare op a b iha ihb => rw [render, render, iha, ihb]
  | like a b iha ihb => rw [render, render, iha, ihb]
  | likeEscape a b c iha ihb ihc => rw [render, render, iha, ihb, ihc]
  | between a b c iha ihb ihc => rw [render, render, iha, ihb, ihc]
  | inList e es ih ihs =>
    cases es with
    | nil => rfl
    | cons v vs =>
      rw [render, render, ih, renderOperands_congr ihs] <;> simp
  | isNull e negated ih => rw [render, render, ih]
  | scalar f args ih =>
    rw [render, render, renderOperands_congr ih]
    simp only [callText_nested]
    rfl
  | aggregate f args distinct orderBy separator iha ihk =>
    rw [render, render, renderOperands_congr iha,
      renderKeys_congr (sortKeys_withListRules t r) ihk]
    simp only [callText_nested]
    rfl

/-- An item of the select list is written as a nested expression and wrapped at most once. -/
theorem render_selectList (t : Target) (e : Expr) :
    t.render .selectList e = (t.render .nested e).map (t.outermost e) := by
  -- A condition ignores where it stands.
  have hsame {x : Except QueryError String} : x = x.map fun sql => sql := by
    cases x <;> rfl
  cases e with
  | column c => rfl
  | literal l =>
    rw [render, render, literalText_nested, literalText]
    cases l <;> rfl
  | and | or | not | compare | like | likeEscape | between | isNull => exact hsame
  | inList e values => cases values <;> exact hsame
  | scalar f args =>
    rw [render, render]
    split
    · cases t.renderOperands args with
      | error fault => rfl
      | ok parts => exact congrArg Except.ok (callText_selectList _ _)
    · rfl
  | aggregate f args distinct orderBy separator =>
    rw [render, render]
    split
    · rfl
    split
    · rfl
    cases t.renderOperands args with
    | error fault => rfl
    | ok parts =>
      cases t.renderKeys orderBy with
      | error fault => rfl
      | ok keys => exact congrArg Except.ok (callText_selectList _ _)

/-! ## queries -/

/-- The rules of the select list do not reach the text after it. -/
theorem clauses_withListRules (t : Target) (r : SelectListRules) (s : Select) :
    (t.withListRules r).clauses s = t.clauses s := by
  have hclause (keyword : String) (clause : Option Expr) :
      (t.withListRules r).clauseText keyword clause = t.clauseText keyword clause := by
    cases clause with
    | none => rfl
    | some e => rw [clauseText, clauseText, render_nested_withListRules]
  have hgroup : (t.withListRules r).groupByText s.groupBy = t.groupByText s.groupBy := by
    cases s.groupBy with
    | nil => rfl
    | cons e es =>
      simp only [groupByText, renderAll_congr fun e _ => render_nested_withListRules t r e]
  have horder : (t.withListRules r).orderByText s.orderBy = t.orderByText s.orderBy := by
    cases s.orderBy with
    | nil => rfl
    | cons k ks =>
      have hkeys := renderKeys_congr (sortKeys_withListRules t r) fun k' (_ : k' ∈ k :: ks) =>
        render_nested_withListRules t r k'.expr
      simp only [orderByText, renderOrderBy, hkeys]
  rw [clauses, clauses, hclause, hclause, hgroup, horder]
  rfl

/-- The items of an explicit select list fail for the same reason under all rules: the wraps cannot
fail. -/
theorem renderItems_eq_map (t : Target) (es : List Expr) :
    t.renderItems es = (t.renderAll es).map (List.zipWith t.outermost es) := by
  induction es with
  | nil => rfl
  | cons e es ih =>
    rw [renderItems, renderAll, render_selectList, ih]
    cases t.render .nested e with
    | error fault => rfl
    | ok sql => cases t.renderAll es <;> rfl

theorem selectItems_exprs (t : Target) {s : Select} {e : Expr} {es : List Expr}
    (hs : s.selectList = .exprs (e :: es)) (aliases : Bool) :
    t.selectItems s aliases = (t.renderAll (e :: es)).map fun plain =>
      let items := List.zipWith t.outermost (e :: es) plain
      if aliases then aliasItems items else items := by
  rw [selectItems, hs]
  simp only [renderItems_eq_map]
  cases t.renderAll (e :: es) <;> rfl

theorem agreeAfterList_withListRules (t : Target) (r : SelectListRules) {s : Select}
    {es : List Expr} (hs : s.selectList = .exprs es) (request : InnerRequest) :
    t.AgreeAfterList (t.withListRules r) s request := by
  have hall : (t.withListRules r).renderAll es = t.renderAll es :=
    renderAll_congr fun e _ => render_nested_withListRules t r e
  unfold AgreeAfterList
  cases es with
  | nil => simp only [innerQuery, selectItems, hs, clauses_withListRules]; rfl
  | cons e es =>
    simp only [innerQuery, selectItems_exprs _ hs, clauses_withListRules, hall, topText]
    cases t.renderAll (e :: es) with
    | error fault => rfl
    | ok plain =>
      cases t.clauses s with
      | error fault => rfl
      | ok rest => exact ⟨_, _, rest, rfl, rfl, rfl, rfl, rfl, rfl⟩

/-- **Conversions of the select list stay there**: a target that exchanges its rules for the select
list writes every nested expression as before, and every query with an explicit list as before from
the end of that list on; and an item of the list is its nested text in the one wrap that the root of
the expression chooses. -/
theorem listRules_outermost (t : Target) (r : SelectListRules) :
    (∀ e, (t.withListRules r).render .nested e = t.render .nested e) ∧
    (∀ s es request, s.selectList = .exprs es →
      t.AgreeAfterList (t.withListRules r) s request) ∧
    ∀ e, t.render .selectList e = (t.render .nested e).map (t.outermost e) := by
  refine ⟨render_nested_withListRules t r, ?_, render_selectList t⟩
  intro s es request hs
  exact agreeAfterList_withListRules t r hs request

/-- A column and a sum are wrapped in the select list and not in the grouping and ordering keys. -/
theorem listRules_outermost_grouped :
    let x : Expr := .column ⟨"T", none, 0, ⟨"X", .date, "DATE"⟩⟩
    let sum : Expr := .plainAggregate .sum [x] false
    let s := (((Select.ofTable { name := "T" }).withColumns [x, sum]).withGroupBy [x]).withOrderBy
      [sum.asc true]
    let plain : Target := { profile := { name := "PLAIN" } }
    let wrapping := plain.withListRules
      ⟨fun _ sql => some ("TO_CHAR(" ++ sql ++ ")"), id, [.sum], [], "FLOAT"⟩
    (plain.innerQuery s {}).map InnerQuery.sql =
      .ok "SELECT T.X, SUM(T.X) FROM T GROUP BY T.X ORDER BY SUM(T.X) ASC NULLS LAST" ∧
    (wrapping.innerQuery s {}).map InnerQuery.sql =
      .ok ("SELECT TO_CHAR(T.X), CAST(SUM(T.X) AS FLOAT) FROM T GROUP BY T.X " ++
        "ORDER BY SUM(T.X) ASC NULLS LAST") ∧
    plain.AgreeAfterList wrapping s {} := by
  refine ⟨by decide +kernel, by decide +kernel, ?_⟩
  exact (listRules_outermost _ _).2.1 _ _ {} rfl

end Target

end RemoteQuery
