import RemoteQuery.Dialect.Registry
import RemoteQuery.Proofs.Forms

/-!
# RemoteQuery.Proofs.Templated

Targets whose rules are templates: whatever such a target writes, it assembles
from the texts it is given, and its calls and literals hold together.

* `Target.Templated` — a target whose rules are templates;
* `Target.Templated.scalarText`, `Target.Templated.aggregateText` — so are its
  calls, plain or not.
-/

namespace RemoteQuery

open Assembled Calls

namespace Target

/-- The rules of a target assemble their texts from what they are given.  Calls and literals hold
together; the words for calls without parentheses are the generic ones. -/
structure Templated (t : Target) : Prop where
  transportForm : ∀ {Given c sql out}, Assembled Given sql → t.transportForm c sql = some out →
    Assembled Given out
  scalarForm : ∀ {Given f args out}, (∀ a ∈ args, Assembled Given a) →
    t.scalarForm f args = some out → Delimited Given out
  aggregateForm : ∀ {Given c out}, AggregateText.PartsAssembled Given c →
    t.aggregateForm c = some out → Delimited Given out
  scalarAliases : t.profile.scalarAliases.all (fun a => isName a.2 && !a.1.isKeyword) = true
  aggregateAliases : t.profile.aggregateAliases.all (isName ·.2) = true
  boolLiteral : ∀ {Given} b, Delimited Given (t.boolLiteral b)
  dateLiteral : ∀ {Given} d, Delimited Given (t.dateLiteral d)
  timestampLiteral : ∀ {Given} s, Delimited Given (t.timestampLiteral s)
  intervalLiteral : ∀ {Given value} kind, Assembled Given (Text.stringLiteral value) →
    Delimited Given (t.intervalLiteral value kind)
  selectedNumber : ∀ {Given sql}, Assembled Given sql → Assembled Given (t.selectedNumber sql)
  doubleType : Piece.closed [.fixed t.profile.doubleType] = true

variable {Given : String → Prop}

/-! ## literals -/

theorem delimited_boolWord (b : Bool) : Delimited Given (if b then "TRUE" else "FALSE") := by
  cases b <;> exact .word rfl

theorem delimited_numericBool (b : Bool) : Delimited Given (numericBool b) := by
  cases b <;> exact .word rfl

theorem delimited_dateWord (d : Date) : Delimited Given ("DATE '" ++ d.text ++ "'") :=
  .template [.fixed "DATE '", .quoted d.text, .fixed "'"] rfl (by simp [Piece.contents])
    (by simpa [Piece.inner] using d.verbatim_text)

theorem delimited_timestampWord (t : Timestamp) :
    Delimited Given ("TIMESTAMP '" ++ t.millisecondText ++ "'") :=
  .template [.fixed "TIMESTAMP '", .quoted t.millisecondText, .fixed "'"] rfl
    (by simp [Piece.contents]) (by simpa [Piece.inner] using t.verbatim_text)

theorem assembled_nat (n : Nat) : Assembled Given (toString n) :=
  .numeral (.inl (by simpa using Text.isUnsigned_digits n))

theorem delimited_standardInterval {value : String} (kind : IntervalKind)
    (hvalue : Assembled Given (Text.stringLiteral value)) :
    Delimited Given (standardInterval value kind) := by
  cases kind with
  | yearToMonth p =>
    refine .of_pieces [.fixed "INTERVAL ", .literal value, .fixed " YEAR(",
      .part (toString p.toNat), .fixed ") TO MONTH"] rfl rfl ?_
    simp only [Piece.contents, List.forall_mem_cons]
    exact ⟨hvalue, assembled_nat _, by simp⟩
  | dayToSecond p f =>
    refine .of_pieces [.fixed "INTERVAL ", .literal value, .fixed " DAY(",
      .part (toString p.toNat), .fixed ") TO SECOND(", .part (toString f.toNat), .fixed ")"]
      rfl rfl ?_
    simp only [Piece.contents, List.forall_mem_cons]
    exact ⟨hvalue, assembled_nat _, assembled_nat _, by simp⟩

/-! ## calls -/

/-- What holds of every entry of a table holds of the one that is found. -/
theorem of_lookup_eq_some {α : Type} [BEq α] [LawfulBEq α] {table : List (α × String)} {a : α}
    {name : String} {holds : α × String → Bool} (htable : table.all holds = true)
    (h : table.lookup a = some name) : holds (a, name) = true := by
  obtain ⟨front, back, rfl, -⟩ := List.lookup_eq_some_iff.1 h
  exact List.all_eq_true.1 htable (a, name) (by simp)

namespace Templated

variable {t : Target} (ht : t.Templated)
include ht

theorem scalarName (f : ScalarFunction) : isName (t.profile.scalarName f) = true := by
  unfold Profile.scalarName Profile.scalarAlias?
  cases hlookup : t.profile.scalarAliases.lookup f with
  | none => cases f <;> rfl
  | some name => exact (Bool.and_eq_true_iff.1 (of_lookup_eq_some ht.scalarAliases hlookup)).1

theorem aggregateName (f : AggregateFunction) : isName (t.profile.aggregateName f) = true := by
  unfold Profile.aggregateName Profile.aggregateAlias?
  cases hlookup : t.profile.aggregateAliases.lookup f with
  | none => cases f <;> rfl
  | some name => exact of_lookup_eq_some ht.aggregateAliases hlookup

/-- A call that is written as a word has the generic one. -/
theorem keyword {f : ScalarFunction} (hf : f.isKeyword = true) :
    Delimited Given (t.profile.scalarName f) := by
  unfold Profile.scalarName Profile.scalarAlias?
  cases hlookup : t.profile.scalarAliases.lookup f with
  | none => cases f <;> first | exact .word rfl | contradiction
  | some name =>
    have hentry := (Bool.and_eq_true_iff.1 (of_lookup_eq_some ht.scalarAliases hlookup)).2
    rw [hf] at hentry
    contradiction

theorem plainScalar {f : ScalarFunction} {args : List String}
    (hargs : ∀ a ∈ args, Assembled Given a) : Delimited Given (t.plainScalar f args) := by
  unfold Target.plainScalar
  split
  next op hop =>
    refine delimited_operatorChain ?_ hargs
    revert hop
    cases f <;> intro hop <;> cases hop <;> rfl
  next =>
    split
    · exact delimited_negate hargs
    · split
      next hkeyword => exact ht.keyword hkeyword
      next => exact delimited_call (ht.scalarName f) hargs

theorem scalarText {f : ScalarFunction} {args : List String}
    (hargs : ∀ a ∈ args, Assembled Given a) : Delimited Given (t.scalarText f args) := by
  unfold Target.scalarText
  cases hform : t.scalarForm f args with
  | none => exact ht.plainScalar hargs
  | some out => exact ht.scalarForm hargs hform

theorem plainAggregate {c : AggregateText} (h : c.PartsAssembled Given) :
    Delimited Given (t.plainAggregate c) := by
  have hname := ht.aggregateName c.function
  unfold Target.plainAggregate
  split
  · exact .word rfl
  · split
    next hf => exact h.separatorClause hname hf
    · have hbody : Assembled Given (c.distinctWord ++ ", ".intercalate c.args) := by
        refine of_pieces [.fixed c.distinctWord, .parts ", " c.args] ?_ rfl
          (by simpa [Piece.contents] using h.args)
        exact c.distinctWord_cases (fun word => Piece.closed [.fixed word, .parts ", " c.args]) rfl rfl
      simpa only [String.append_assoc] using Delimited.named hname hbody

theorem aggregateText {c : AggregateText} (h : c.PartsAssembled Given) :
    Delimited Given (t.aggregateText c) := by
  unfold Target.aggregateText
  cases hform : t.aggregateForm c with
  | none => exact ht.plainAggregate h
  | some out => exact ht.aggregateForm h hform

end Templated

end Target

end RemoteQuery
