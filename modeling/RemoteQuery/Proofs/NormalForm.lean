import RemoteQuery.Dialect.Native
import RemoteQuery.Render.Expr
import RemoteQuery.Proofs.Expression

/-!
# RemoteQuery.Proofs.NormalForm

What of an expression is meant to survive in its native text.  A junction of one
operand is that operand, a column is its qualifier and its name, a literal is its
text, and only a concatenation of groups keeps an order and a separator.
-/

namespace RemoteQuery

/-- An expression up to what its native text does not tell. -/
inductive NormalForm where
  | column (qualifier name : String)
  /-- A literal as it is written; a double that is not finite has no text. -/
  | literal (text : Option String)
  | and (operands : List NormalForm)
  | or (operands : List NormalForm)
  | not (operand : NormalForm)
  | compare (op : CompareOp) (left right : NormalForm)
  | like (subject pattern : NormalForm)
  | likeEscape (subject pattern escape : NormalForm)
  | between (subject low high : NormalForm)
  | inList (subject : NormalForm) (values : List NormalForm)
  | isNull (subject : NormalForm) (negated : Bool)
  | scalar (function : ScalarFunction) (args : List NormalForm)
  | aggregate (function : AggregateFunction) (args : List NormalForm) (distinct : Bool)
      (orderBy : List (OrderKey NormalForm)) (separator : Option String)

namespace NormalForm

/-- A junction of one operand stands for that operand. -/
def junction (build : List NormalForm → NormalForm) : List NormalForm → NormalForm
  | [operand] => operand
  | operands => build operands

/-- An aggregate call; the order and the separator count in a concatenation only, where a comma is
the default. -/
def call (f : AggregateFunction) (args : List NormalForm) (distinct : Bool)
    (orderBy : List (OrderKey NormalForm)) (separator : Option String) : NormalForm :=
  if f = .groupConcat then aggregate f args distinct orderBy (some (separator.getD ","))
  else aggregate f args distinct [] none

end NormalForm

namespace Expr

mutual

/-- The expression up to what its native text does not tell. -/
def normalForm : Expr → NormalForm
  | column c => .column c.qualifier c.metadata.name
  | literal l => .literal (Dialect.Native.target.plainLiteral l).toOption
  | and es => .junction .and (normalForms es)
  | or es => .junction .or (normalForms es)
  | not e => .not e.normalForm
  | compare op l r => .compare op l.normalForm r.normalForm
  | like e p => .like e.normalForm p.normalForm
  | likeEscape e p x => .likeEscape e.normalForm p.normalForm x.normalForm
  | between e l h => .between e.normalForm l.normalForm h.normalForm
  | inList e es => .inList e.normalForm (normalForms es)
  | isNull e negated => .isNull e.normalForm negated
  | scalar f args => .scalar f (normalForms args)
  | aggregate f args distinct orderBy separator =>
    .call f (normalForms args) distinct (keyForms orderBy) separator
termination_by structural e => e

/-- The normal forms of a list of expressions. -/
def normalForms : List Expr → List NormalForm
  | [] => []
  | e :: es => e.normalForm :: normalForms es
termination_by structural es => es

/-- The normal forms of ordering keys; their directions stay. -/
def keyForms : List (OrderKey Expr) → List (OrderKey NormalForm)
  | [] => []
  | ⟨e, ascending, nullsLast⟩ :: ks => ⟨e.normalForm, ascending, nullsLast⟩ :: keyForms ks
termination_by structural ks => ks

end

theorem keyForms_eq (ks : List (OrderKey Expr)) :
    keyForms ks = ks.map fun k => ⟨k.expr.normalForm, k.ascending, k.nullsLast⟩ := by
  induction ks with
  | nil => rfl
  | cons k ks ih => rw [keyForms, ih, List.map_cons]

end Expr

end RemoteQuery
