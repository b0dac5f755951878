import RemoteQuery.Render.Select
import RemoteQuery.Proofs.Expression
import Mathlib.Data.List.Forall2

/-!
# RemoteQuery.Proofs.Rendering

What a written expression is made of: for every kind of expression, the texts of
its parts and how they are put together.  Later proofs take a rendering apart by
these lemmas and never open `Target.render` itself.

Operands and arguments are described by `Target.renderOperand`; lists of them
are related to their texts member by member.
-/

namespace RemoteQuery

/-! ## steps that may fail -/

/-- Two steps succeed together when the first succeeds and the second does on its result. -/
theorem bind_eq_ok {ε α β : Type} {x : Except ε α} {f : α → Except ε β} {b : β} :
    (x >>= f) = .ok b ↔ ∃ a, x = .ok a ∧ f a = .ok b := by
  cases x with
  | error e => simp [bind, Except.bind]
  | ok a => simp [bind, Except.bind]

/-- A last step that cannot fail succeeds with its one result. -/
theorem pure_eq_ok {ε α : Type} {a b : α} : (pure a : Except ε α) = .ok b ↔ a = b := by
  simp [pure, Except.pure]

/-- A result under a function is the function of a result. -/
theorem map_eq_ok {ε α β : Type} {x : Except ε α} {f : α → β} {b : β} :
    x.map f = .ok b ↔ ∃ a, x = .ok a ∧ f a = b := by
  cases x <;> simp [Except.map]

/-- A result whose faults are renamed is the result itself. -/
theorem mapError_eq_ok {ε ε' α : Type} {x : Except ε α} {f : ε → ε'} {a : α} :
    x.mapError f = .ok a ↔ x = .ok a := by
  cases x <;> simp [Except.mapError]

/-- A step either succeeds or fails. -/
theorem not_ok_iff_error {ε α : Type} {x : Except ε α} :
    (¬∃ a, x = .ok a) ↔ ∃ e, x = .error e := by
  cases x <;> simp

/-! ## numbers of arguments -/

theorem eq_of_admits_exactly {k n : Nat} (h : (Arity.exactly k).admits n = true) : n = k := by
  simp only [Arity.exactly, Arity.admits, Option.all_some, Bool.and_eq_true,
    decide_eq_true_eq] at h
  exact Nat.le_antisymm h.2 (of_decide_eq_true h.1)

namespace Target

variable {t : Target} {p : Position} {sql : String}

/-! ## columns and literals -/

theorem render_column {c : ColumnRef} : t.render p (.column c) = .ok (t.columnText c p) :=
  rfl

theorem render_literal {l : Literal} : t.render p (.literal l) = t.literalText l p :=
  rfl

/-- Only directly in the select list is a literal wrapped. -/
theorem literalText_nested (l : Literal) : t.literalText l .nested = t.plainLiteral l := by
  cases h : t.plainLiteral l <;> simp [literalText, h, Except.map]

/-- Only directly in the select list is a call cast. -/
theorem callText_nested (casts : Bool) (sql : String) : t.callText casts .nested sql = sql := by
  simp [callText]

/-! ## operands -/

/-- The text beside an operator is the delimited text. -/
theorem renderOperand_eq_ok {e : Expr} {text : String} :
    t.renderOperand e = .ok text ↔ ∃ sql, t.render .nested e = .ok sql ∧ e.delimit sql = text := by
  simp only [renderOperand, bind_eq_ok, pure_eq_ok]

/-- An expression has a text beside an operator when it has one at all. -/
theorem exists_renderOperand {e : Expr} :
    (∃ text, t.renderOperand e = .ok text) ↔ ∃ sql, t.render .nested e = .ok sql := by
  simp only [renderOperand_eq_ok]
  exact ⟨fun ⟨_, sql, h, _⟩ => ⟨sql, h⟩, fun ⟨sql, h⟩ => ⟨_, sql, h, rfl⟩⟩

/-! ## lists -/

theorem renderAll_eq_ok {es : List Expr} {sqls : List String} :
    t.renderAll es = .ok sqls ↔
      List.Forall₂ (fun e sql => t.render .nested e = .ok sql) es sqls := by
  induction es generalizing sqls with
  | nil => simp [renderAll, eq_comm]
  | cons e es ih =>
    simp only [renderAll, bind_eq_ok, pure_eq_ok, ih, List.forall₂_cons_left_iff]
    grind

theorem renderOperands_eq_ok {es : List Expr} {sqls : List String} :
    t.renderOperands es = .ok sqls ↔
      List.Forall₂ (fun e sql => t.renderOperand e = .ok sql) es sqls := by
  induction es generalizing sqls with
  | nil => simp [renderOperands, eq_comm]
  | cons e es ih =>
    simp only [renderOperands, bind_eq_ok, pure_eq_ok, ih, List.forall₂_cons_left_iff,
      renderOperand_eq_ok]
    grind

theorem renderItems_eq_ok {es : List Expr} {sqls : List String} :
    t.renderItems es = .ok sqls ↔
      List.Forall₂ (fun e sql => t.render .selectList e = .ok sql) es sqls := by
  induction es generalizing sqls with
  | nil => simp [renderItems, eq_comm]
  | cons e es ih =>
    simp only [renderItems, bind_eq_ok, pure_eq_ok, ih, List.forall₂_cons_left_iff]
    grind

/-- The texts one ordering key is written as. -/
def keyTexts (t : Target) (k : OrderKey Expr) (sql : String) : List String :=
  (t.profile.sortKeys sql k.ascending k.nullsLast).map SortKey.text

/-- Ordering keys are written one after the other, each from the text of its expression. -/
theorem renderKeys_eq_ok {ks : List (OrderKey Expr)} {texts : List String} :
    t.renderKeys ks = .ok texts ↔ ∃ parts,
      List.Forall₂ (fun k part => ∃ sql, t.render .nested k.expr = .ok sql ∧
        t.keyTexts k sql = part) ks parts ∧ parts.flatten = texts := by
  induction ks generalizing texts with
  | nil => simp [renderKeys]
  | cons k ks ih =>
    simp only [renderKeys, bind_eq_ok, pure_eq_ok, ih, List.forall₂_cons_left_iff]
    constructor
    · rintro ⟨sql, hsql, _, ⟨parts, hparts, rfl⟩, rfl⟩
      exact ⟨_ :: parts, ⟨_, parts, ⟨sql, hsql, rfl⟩, hparts, rfl⟩, rfl⟩
    · rintro ⟨_, ⟨_, parts, ⟨sql, hsql, rfl⟩, hparts, rfl⟩, rfl⟩
      exact ⟨sql, hsql, _, ⟨parts, hparts, rfl⟩, rfl⟩

/-! ## conditions -/

/-- A junction of one part is that part; one of more stands in parentheses. -/
theorem junction_eq_ok {keyword : String} {empty : QueryError} {parts : List String} :
    junction keyword empty parts = .ok sql ↔ parts = [sql] ∨
      (2 ≤ parts.length ∧ "(" ++ (" " ++ keyword ++ " ").intercalate parts ++ ")" = sql) := by
  match parts with
  | [] => simp [junction]
  | [part] => simp [junction]
  | _ :: _ :: _ => simp [junction]

theorem render_and {es : List Expr} : t.render p (.and es) = .ok sql ↔
    ∃ parts, t.renderAll es = .ok parts ∧ junction "AND" .emptyAnd parts = .ok sql :=
  bind_eq_ok

theorem render_or {es : List Expr} : t.render p (.or es) = .ok sql ↔
    ∃ parts, t.renderAll es = .ok parts ∧ junction "OR" .emptyOr parts = .ok sql :=
  bind_eq_ok

theorem render_not {e : Expr} : t.render p (.not e) = .ok sql ↔
    ∃ inner, t.render .nested e = .ok inner ∧ "NOT (" ++ inner ++ ")" = sql := by
  show (_ >>= _) = Except.ok sql ↔ _
  simp only [bind_eq_ok, pure_eq_ok]

theorem render_compare {op : CompareOp} {l r : Expr} :
    t.render p (.compare op l r) = .ok sql ↔
      ∃ a b, t.renderOperand l = .ok a ∧ t.renderOperand r = .ok b ∧
        a ++ " " ++ op.symbol ++ " " ++ b = sql := by
  show (_ >>= _) = Except.ok sql ↔ _
  simp only [renderOperand_eq_ok, bind_eq_ok, pure_eq_ok]
  grind

theorem render_like {e pattern : Expr} : t.render p (.like e pattern) = .ok sql ↔
    ∃ a b, t.renderOperand e = .ok a ∧ t.renderOperand pattern = .ok b ∧
      a ++ " LIKE " ++ b = sql := by
  show (_ >>= _) = Except.ok sql ↔ _
  simp only [renderOperand_eq_ok, bind_eq_ok, pure_eq_ok]
  grind

theorem render_likeEscape {e pattern escape : Expr} :
    t.render p (.likeEscape e pattern escape) = .ok sql ↔
      ∃ a b c, t.renderOperand e = .ok a ∧ t.renderOperand pattern = .ok b ∧
        t.renderOperand escape = .ok c ∧ a ++ " LIKE " ++ b ++ " ESCAPE " ++ c = sql := by
  show (_ >>= _) = Except.ok sql ↔ _
  simp only [renderOperand_eq_ok, bind_eq_ok, pure_eq_ok]
  grind

theorem render_between {e low high : Expr} : t.render p (.between e low high) = .ok sql ↔
    ∃ a b c, t.renderOperand e = .ok a ∧ t.renderOperand low = .ok b ∧
      t.renderOperand high = .ok c ∧ a ++ " BETWEEN " ++ b ++ " AND " ++ c = sql := by
  show (_ >>= _) = Except.ok sql ↔ _
  simp only [renderOperand_eq_ok, bind_eq_ok, pure_eq_ok]
  grind

theorem render_inList {e : Expr} {values : List Expr} :
    t.render p (.inList e values) = .ok sql ↔
      values ≠ [] ∧ ∃ a parts, t.renderOperand e = .ok a ∧ t.renderOperands values = .ok parts ∧
        a ++ " IN (" ++ ", ".intercalate parts ++ ")" = sql := by
  cases values with
  | nil =>
    show Except.error _ = Except.ok sql ↔ _
    simp only [reduceCtorEq, ne_eq, not_true_eq_false, false_and]
  | cons v vs =>
    show (_ >>= _) = Except.ok sql ↔ _
    simp only [renderOperand_eq_ok, bind_eq_ok, pure_eq_ok]
    grind

theorem render_isNull {e : Expr} {negated : Bool} : t.render p (.isNull e negated) = .ok sql ↔
    ∃ a, t.renderOperand e = .ok a ∧
      a ++ (if negated then " IS NOT NULL" else " IS NULL") = sql := by
  show (_ >>= _) = Except.ok sql ↔ _
  simp only [renderOperand_eq_ok, bind_eq_ok, pure_eq_ok]
  grind

/-! ## calls -/

theorem render_scalar {f : ScalarFunction} {args : List Expr} :
    t.render p (.scalar f args) = .ok sql ↔
      (t.profile.scalarArity f).admits args.length = true ∧ ∃ parts,
        t.renderOperands args = .ok parts ∧
        t.callText (t.profile.castsScalar f) p (t.scalarText f parts) = sql := by
  show (if _ then _ else _) = Except.ok sql ↔ _
  split
  · simp only [bind_eq_ok, pure_eq_ok, *, true_and]
  · simp only [reduceCtorEq, *, false_and, Bool.false_eq_true]

/-- The written ordering of an aggregate, nothing without keys. -/
def orderText (orderBy : List (OrderKey Expr)) (keys : List String) : Option String :=
  if orderBy.isEmpty then none else some (", ".intercalate keys)

theorem render_aggregate {f : AggregateFunction} {args : List Expr} {distinct : Bool}
    {orderBy : List (OrderKey Expr)} {separator : Option String} :
    t.render p (.aggregate f args distinct orderBy separator) = .ok sql ↔
      f.arity.admits args.length = true ∧ ¬(distinct = true ∧ args = []) ∧ ∃ parts keys,
        t.renderOperands args = .ok parts ∧ t.renderKeys orderBy = .ok keys ∧
        t.callText (t.profile.castsAggregate f) p
          (t.aggregateText ⟨f, parts, distinct, orderText orderBy keys, separator⟩) = sql := by
  show (if _ then _ else _) = Except.ok sql ↔ _
  split
  next h =>
    have h : f.arity.admits args.length ≠ true := by simpa using h
    simp [h]
  next h =>
    have h : f.arity.admits args.length = true := by simpa using h
    split
    next hd =>
      have hd : distinct = true ∧ args = [] := by simpa using hd
      simp [hd]
    next hd =>
      have hd : ¬(distinct = true ∧ args = []) := by simpa using hd
      simp only [bind_eq_ok, pure_eq_ok, h, hd, orderText, true_and, not_false_eq_true]
      grind

/-! ## queries -/

/-- The items of the select list before any alias; a star is kept unless it has to be written out.
-/
def listItems (t : Target) (s : Select) (aliases : Bool) : Except QueryError (List String) :=
  match s.selectList with
  | .star => if aliases || t.transportsAny s.source then t.starItems s.source else .ok ["*"]
  | .anyColumn => .ok ["1"]
  | .exprs [] => .error .emptySelectList
  | .exprs es => t.renderItems es

theorem selectItems_eq_ok {s : Select} {aliases : Bool} {items : List String} :
    t.selectItems s aliases = .ok items ↔ ∃ plain, t.listItems s aliases = .ok plain ∧
      (if aliases then aliasItems plain else plain) = items := by
  simp only [selectItems, listItems]
  cases s.selectList with
  | star =>
    by_cases h : (aliases || t.transportsAny s.source) = true
    · simp only [h, if_true, bind_eq_ok, pure_eq_ok]
    · simp only [h, if_false, bind_eq_ok, pure_eq_ok, Bool.false_eq_true]
  | anyColumn => simp only [bind_eq_ok, pure_eq_ok]
  | exprs es => cases es <;> simp only [bind_eq_ok, pure_eq_ok]

theorem clauseText_eq_ok {keyword : String} {clause : Option Expr} :
    t.clauseText keyword clause = .ok sql ↔ (clause = none ∧ "" = sql) ∨
      ∃ e inner, clause = some e ∧ t.render .nested e = .ok inner ∧ keyword ++ inner = sql := by
  cases clause with
  | none => simp [clauseText]
  | some e =>
    simp only [clauseText, bind_eq_ok, pure_eq_ok]
    grind

theorem groupByText_eq_ok {keys : List Expr} :
    t.groupByText keys = .ok sql ↔ (keys = [] ∧ "" = sql) ∨
      ∃ parts, keys ≠ [] ∧ t.renderAll keys = .ok parts ∧
        " GROUP BY " ++ ", ".intercalate parts = sql := by
  cases keys with
  | nil => simp [groupByText]
  | cons e es =>
    simp only [groupByText, bind_eq_ok, pure_eq_ok]
    grind

theorem orderByText_eq_ok {keys : List (OrderKey Expr)} :
    t.orderByText keys = .ok sql ↔ (keys = [] ∧ "" = sql) ∨
      ∃ parts, keys ≠ [] ∧ t.renderKeys keys = .ok parts ∧
        " ORDER BY " ++ ", ".intercalate parts = sql := by
  cases keys with
  | nil => simp [orderByText]
  | cons k ks =>
    simp only [orderByText, renderOrderBy, bind_eq_ok, pure_eq_ok]
    grind

theorem clauses_eq_ok {s : Select} : t.clauses s = .ok sql ↔
    ∃ filter groupBy having orderBy, t.clauseText " WHERE " s.filter = .ok filter ∧
      t.groupByText s.groupBy = .ok groupBy ∧ t.clauseText " HAVING " s.having = .ok having ∧
      t.orderByText s.orderBy = .ok orderBy ∧
      " FROM " ++ t.tableText s.source ++ filter ++ groupBy ++ having ++ orderBy = sql := by
  simp only [clauses, bind_eq_ok, pure_eq_ok]
  grind

/-- The text a limit puts between `SELECT` and the select list. -/
def topText (request : InnerRequest) : String :=
  match request.top with
  | some n => "TOP " ++ toString n.toNat ++ " "
  | none => ""

theorem innerQuery_eq_ok {s : Select} {request : InnerRequest} {inner : InnerQuery} :
    t.innerQuery s request = .ok inner ↔
      ∃ items rest, t.selectItems s request.positionalAliases = .ok items ∧
        t.clauses s = .ok rest ∧
        ⟨"SELECT " ++ topText request ++ ", ".intercalate items ++ rest, items.length⟩ = inner := by
  simp only [innerQuery, bind_eq_ok, pure_eq_ok, topText]
  grind

/-- A query without a limit is its inner query; one with a limit is completed as planned. -/
theorem generate_eq_ok {s : Select} : t.generate s = .ok sql ↔
    (s.limit = none ∧ ∃ inner, t.innerQuery s {} = .ok inner ∧ inner.sql = sql) ∨
      ∃ count offset plan inner, s.limit = some ⟨some count, offset⟩ ∧
        t.profile.limitStrategy.plan count offset = .ok plan ∧
        t.innerQuery s plan.request = .ok inner ∧ plan.complete inner = sql := by
  rw [generate]
  split
  next h =>
    simp only [h, bind_eq_ok, pure_eq_ok]
    grind
  next h => simp [h]
  next count offset h =>
    simp only [h, bind_eq_ok, pure_eq_ok, mapError_eq_ok]
    grind

end Target

end RemoteQuery
