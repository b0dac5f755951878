import RemoteQuery.Capability.Needs
import RemoteQuery.Proofs.Expression

/-!
# RemoteQuery.Proofs.Needs

The tokens a query needs, told by where they come from.  Every expression needs
the tokens of its own root and those of the expressions in it, so a token is
needed exactly when it is a token of the root of something that occurs.

* `Expr.needs_eq` — the needs of an expression are those of its root and of its
  children;
* `Expr.needs_iff_occurs` — the same for everything that occurs at any depth;
* `Select.has_needs_iff` — a query needs the tokens of everything that occurs in
  it, and beyond those only the tokens of its shape.
-/

namespace RemoteQuery

namespace CapabilitySet

theorem union_assoc (a b c : CapabilitySet) : a ∪ b ∪ c = a ∪ (b ∪ c) := by
  ext x <;> exact Bool.or_assoc _ _ _

@[simp] theorem union_empty (a : CapabilitySet) : a ∪ empty = a := by
  ext x <;> exact Bool.or_false _

@[simp] theorem empty_union (a : CapabilitySet) : empty ∪ a = a := by
  ext x <;> exact Bool.false_or _

/-- One set contains another when it contains each of its tokens. -/
theorem containsAll_iff {s required : CapabilitySet} :
    s.containsAll required = true ↔
      (∀ a, required.main.contains a = true → s.main.contains a = true) ∧
      (∀ a, required.predicates.contains a = true → s.predicates.contains a = true) ∧
      (∀ a, required.literals.contains a = true → s.literals.contains a = true) ∧
      (∀ a, required.scalars.contains a = true → s.scalars.contains a = true) ∧
      ∀ a, required.aggregates.contains a = true → s.aggregates.contains a = true := by
  simp only [containsAll, Bool.and_eq_true, TokenSet.subset_iff, and_assoc]

/-- A property of capability sets that asks for a token: the empty set lacks it, and a union has it
when one of its two parts has it. -/
structure AsksForToken (has : CapabilitySet → Prop) : Prop where
  not_empty : ¬has empty
  union_iff : ∀ a b, has (a ∪ b) ↔ has a ∨ has b

theorem asksForToken_main (m : MainCapability) :
    AsksForToken fun c => c.main.contains m = true :=
  ⟨Bool.false_ne_true, fun _ _ => Bool.or_eq_true_iff⟩

theorem asksForToken_scalar (f : ScalarFunction) :
    AsksForToken fun c => c.scalars.contains f = true :=
  ⟨Bool.false_ne_true, fun _ _ => Bool.or_eq_true_iff⟩

end CapabilitySet

namespace Expr

open CapabilitySet

/-- The tokens of the root of an expression alone. -/
def rootNeeds : Expr → CapabilitySet
  | column _ => empty
  | literal l => ofLiterals [l.capability]
  | and _ => ofPredicates [.and]
  | or _ => ofPredicates [.or]
  | not _ => ofPredicates [.not]
  | compare op _ _ => ofPredicates [op.capability]
  | like _ _ => ofPredicates [.like]
  | likeEscape _ _ _ => ofPredicates [.like, .likeEscape]
  | between _ _ _ => ofPredicates [.between]
  | inList _ _ => ofPredicates [.inConstList]
  | isNull _ negated => ofPredicates [if negated then .isNotNull else .isNull]
  | scalar f _ => ofScalars [f]
  | aggregate f args distinct orderBy separator =>
    ofAggregates (f.capabilities args.isEmpty distinct separator.isSome !orderBy.isEmpty)

theorem needsAll_append (es fs : List Expr) :
    needsAll (es ++ fs) = needsAll es ∪ needsAll fs := by
  induction es with
  | nil => simp [needsAll]
  | cons e es ih => simp [needsAll, ih, union_assoc]

theorem needsOfKeys_eq (ks : List (OrderKey Expr)) :
    needsOfKeys ks = needsAll (ks.map (·.expr)) := by
  induction ks with
  | nil => rfl
  | cons k ks ih => simp [needsOfKeys, needsAll, ih]

/-- The needs of an expression are those of its root and of the expressions directly in it. -/
theorem needs_eq (e : Expr) : e.needs = e.rootNeeds ∪ needsAll e.children := by
  cases e with
  | aggregate f args distinct orderBy separator =>
    simp only [needs, rootNeeds, children, needsAll_append, needsOfKeys_eq, union_assoc]
  | _ => simp [needs, rootNeeds, children, operands, needsAll, union_assoc]

/-- A token is needed by a list of expressions when one of them needs it. -/
theorem needsAll_iff {has : CapabilitySet → Prop} (h : AsksForToken has) (es : List Expr) :
    has (needsAll es) ↔ ∃ e ∈ es, has e.needs := by
  induction es with
  | nil => simpa [needsAll] using h.not_empty
  | cons e es ih => simp [needsAll, h.union_iff, ih]

/-- **A token is needed exactly when it is one of the root of something that occurs.** -/
theorem needs_iff_occurs {has : CapabilitySet → Prop} (h : AsksForToken has) (e : Expr) :
    has e.needs ↔ ∃ x : Expr, x.Occurs e ∧ has x.rootNeeds := by
  induction e using childInduction with
  | step e ih =>
    rw [needs_eq, h.union_iff, needsAll_iff h]
    constructor
    · rintro (hroot | ⟨c, hc, hneeds⟩)
      · exact ⟨e, .here, hroot⟩
      · obtain ⟨x, hx, hroot⟩ := (ih c hc).1 hneeds
        exact ⟨x, .inside hc hx, hroot⟩
    · rintro ⟨x, hx, hroot⟩
      rcases occurs_iff.1 hx with rfl | ⟨c, hc, hx⟩
      · exact .inl hroot
      · exact .inr ⟨c, hc, (ih c hc).2 ⟨x, hx, hroot⟩⟩

end Expr

namespace Select

open CapabilitySet

variable {s : Select}

section

variable {has : CapabilitySet → Prop} (h : AsksForToken has) (hmain : ∀ l, ¬has (ofMain l))
include h hmain

theorem has_needsOfList {l : SelectList} :
    has (needsOfList l) ↔ has (Expr.needsAll l.items) := by
  cases l with
  | star | anyColumn => exact Iff.rfl
  | exprs es => simp only [needsOfList, h.union_iff, hmain, false_or, SelectList.items]

theorem has_needsOfClause {token : MainCapability} {clause : Option Expr} :
    has (needsOfClause token clause) ↔ has (Expr.needsAll clause.toList) := by
  cases clause with
  | none => exact Iff.rfl
  | some e =>
    simp only [needsOfClause, h.union_iff, hmain, false_or, Option.toList_some, Expr.needsAll,
      union_empty]

theorem has_needsOfGroups : has s.needsOfGroups ↔ has (Expr.needsAll s.groupBy) := by
  rw [needsOfGroups]
  cases s.groupBy with
  | nil =>
    have hempty : ¬has empty := h.not_empty
    dsimp only
    split <;> simp [hmain, hempty, Expr.needsAll]
  | cons e es => simp only [h.union_iff, hmain, false_or]

theorem has_needsOfLimit {l : Option RowLimit} : ¬has (needsOfLimit l) := by
  cases l with
  | none => exact h.not_empty
  | some l => exact hmain _

/-- A token that is not one of the shape is needed when the root of something that occurs has it. -/
theorem has_needs_iff : has s.needs ↔ ∃ x : Expr, s.Occurs x ∧ has x.rootNeeds := by
  have hexprs : has s.needs ↔ has (Expr.needsAll s.expressions) := by
    simp only [needs, expressions, Expr.needsAll_append, ← Expr.needsOfKeys_eq, h.union_iff,
      has_needsOfList h hmain, has_needsOfClause h hmain, has_needsOfGroups h hmain,
      has_needsOfLimit h hmain, hmain, or_false]
  rw [hexprs, Expr.needsAll_iff h]
  simp only [Expr.needs_iff_occurs h, Occurs]
  grind

end

/-- A query that skips rows needs the token for it. -/
theorem needs_limitWithOffset {l : RowLimit} {m : UInt64} (hl : s.limit = some l)
    (hm : l.offset = some m) : s.needs.main.contains .limitWithOffset = true := by
  have h := asksForToken_main .limitWithOffset
  simp only [needs, h.union_iff]
  right
  simp [hl, hm, needsOfLimit, ofMain]

end Select

end RemoteQuery
