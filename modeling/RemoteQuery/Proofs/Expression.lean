import RemoteQuery.Query.Select

/-!
# RemoteQuery.Proofs.Expression

Induction over expressions, and what it means that one expression occurs in
another or in a query.

Expressions nest through lists of operands, of arguments and of ordering keys.
`Expr.nestedInduction` hands a proof one hypothesis for every expression in such
a list, and it is what `induction` uses for an expression from here on;
`Expr.childInduction` is the form in which all kinds of expressions are one case.

* `Expr.occurs_iff` — an occurrence is the expression itself or lies in a child;
* `Expr.forall_occurs_iff` — what holds at every occurrence holds at the root and
  at every occurrence in a child.
-/

namespace RemoteQuery

namespace Expr

/-- Induction over expressions; for the members of a list the hypothesis is given one by one, and
for ordering keys of their expressions. -/
@[induction_eliminator]
theorem nestedInduction {motive : Expr → Prop}
    (column : ∀ ref, motive (column ref))
    (literal : ∀ value, motive (literal value))
    (and : ∀ operands, (∀ e ∈ operands, motive e) → motive (and operands))
    (or : ∀ operands, (∀ e ∈ operands, motive e) → motive (or operands))
    (not : ∀ operand, motive operand → motive (not operand))
    (compare : ∀ op left right, motive left → motive right → motive (compare op left right))
    (like : ∀ subject pattern, motive subject → motive pattern → motive (like subject pattern))
    (likeEscape : ∀ subject pattern escape, motive subject → motive pattern → motive escape →
      motive (likeEscape subject pattern escape))
    (between : ∀ subject low high, motive subject → motive low → motive high →
      motive (between subject low high))
    (inList : ∀ subject values, motive subject → (∀ e ∈ values, motive e) →
      motive (inList subject values))
    (isNull : ∀ subject negated, motive subject → motive (isNull subject negated))
    (scalar : ∀ function args, (∀ e ∈ args, motive e) → motive (scalar function args))
    (aggregate : ∀ function args distinct orderBy separator, (∀ e ∈ args, motive e) →
      (∀ k ∈ orderBy, motive k.expr) →
      motive (aggregate function args distinct orderBy separator))
    (e : Expr) : motive e := by
  refine @Expr.rec motive (fun es => ∀ e ∈ es, motive e) (fun ks => ∀ k ∈ ks, motive k.expr)
    (fun k => motive k.expr) column literal and or not compare like likeEscape between inList
    isNull scalar aggregate ?nil ?cons ?keysNil ?keysCons ?key e
  case nil => exact fun e h => absurd h List.not_mem_nil
  case cons =>
    intro e es he hes x hx
    rcases List.mem_cons.1 hx with rfl | hx
    · exact he
    · exact hes x hx
  case keysNil => exact fun k h => absurd h List.not_mem_nil
  case keysCons =>
    intro k ks hk hks x hx
    rcases List.mem_cons.1 hx with rfl | hx
    · exact hk
    · exact hks x hx
  case key => exact fun _ _ _ h => h

/-! ## occurrences -/

/-- The expressions that stand directly in an expression: operands, arguments and the expressions
of ordering keys. -/
def children : Expr → List Expr
  | scalar _ args => args
  | aggregate _ args _ orderBy _ => args ++ orderBy.map (·.expr)
  | e => e.operands

/-- Induction over expressions where the kind of an expression does not matter: what carries over
from the expressions directly in one to the expression itself holds of all. -/
theorem childInduction {motive : Expr → Prop}
    (step : ∀ e : Expr, (∀ c ∈ e.children, motive c) → motive e) (e : Expr) : motive e := by
  induction e with
  | column | literal => exact step _ (by simp [children, operands])
  | and es ih | or es ih | scalar f es ih => exact step _ ih
  | not e ih | isNull e negated ih => exact step _ (by simpa [children, operands] using ih)
  | compare op a b iha ihb | like a b iha ihb =>
    exact step _ (by simpa [children, operands] using ⟨iha, ihb⟩)
  | likeEscape a b c iha ihb ihc | between a b c iha ihb ihc =>
    exact step _ (by simpa [children, operands] using ⟨iha, ihb, ihc⟩)
  | inList e es ih ihs => exact step _ (List.forall_mem_cons.2 ⟨ih, ihs⟩)
  | aggregate f args distinct orderBy separator iha ihk =>
    refine step _ fun c hc => ?_
    rcases List.mem_append.1 hc with hc | hc
    · exact iha c hc
    · obtain ⟨k, hk, rfl⟩ := List.mem_map.1 hc
      exact ihk k hk

/-- `x` stands somewhere in an expression, at any depth. -/
inductive Occurs (x : Expr) : Expr → Prop
  | here : Occurs x x
  | inside {c e : Expr} : c ∈ e.children → Occurs x c → Occurs x e

/-- An occurrence is the expression itself or lies in one that stands directly in it. -/
theorem occurs_iff {x e : Expr} : Occurs x e ↔ x = e ∨ ∃ c ∈ e.children, Occurs x c := by
  constructor
  · intro h
    cases h with
    | here => exact .inl rfl
    | inside hc hx => exact .inr ⟨_, hc, hx⟩
  · rintro (rfl | ⟨c, hc, hx⟩)
    · exact .here
    · exact .inside hc hx

/-- What holds at every occurrence in an expression holds at its root and at every occurrence in
the expressions that stand directly in it. -/
theorem forall_occurs_iff {P : Expr → Prop} {e : Expr} :
    (∀ x, Occurs x e → P x) ↔ P e ∧ ∀ c ∈ e.children, ∀ x, Occurs x c → P x := by
  constructor
  · exact fun h => ⟨h e .here, fun c hc x hx => h x (.inside hc hx)⟩
  · rintro ⟨he, hc⟩ x hx
    rcases occurs_iff.1 hx with rfl | ⟨c, hmem, hx⟩
    · exact he
    · exact hc c hmem x hx

end Expr

namespace SelectList

/-- The expressions of a select list. -/
def items : SelectList → List Expr
  | exprs es => es
  | _ => []

end SelectList

namespace Select

/-- The expressions that stand directly in a query, clause by clause. -/
def expressions (s : Select) : List Expr :=
  s.selectList.items ++ s.filter.toList ++ s.groupBy ++ s.having.toList ++
    s.orderBy.map (·.expr)

/-- `x` stands somewhere in a query, at any depth. -/
def Occurs (x : Expr) (s : Select) : Prop :=
  ∃ e ∈ s.expressions, x.Occurs e

end Select

end RemoteQuery
