import RemoteQuery.Proofs.Needs
import Mathlib.Data.Finset.Card

/-!
# RemoteQuery.Proofs.Feasibility

Whether a target can do what a query needs, and what it lacks.

A capability set keeps its tokens in five parts, and everything it answers is put
together from answers of the parts.  `CapabilitySet.tokens` is the set of all its
tokens, whatever their kind; every answer turns out to be the one that this set
gives, and the laws between the answers are those of finite sets.

* `CapabilitySet.card_tokens` — the size is the number of tokens;
* `CapabilitySet.containsAll_iff_subset`, `CapabilitySet.isEmpty_iff_tokens` — the
  two tests;
* `CapabilitySet.tokens_union`, `CapabilitySet.tokens_missing`,
  `CapabilitySet.tokens_withoutScalars` — the operations;
* `CapabilitySet.missing_consistent` — what is missing agrees with the test, and
  makes up for it.
-/

namespace RemoteQuery

/-- A token of any kind. -/
inductive CapabilityToken where
  | main (token : MainCapability)
  | predicate (token : PredicateCapability)
  | literal (token : LiteralCapability)
  | scalar (function : ScalarFunction)
  | aggregate (token : AggregateCapability)
deriving DecidableEq

namespace CapabilityToken

/-- Every token, kind by kind. -/
def members : List CapabilityToken :=
  Vocabulary.members.map main ++ Vocabulary.members.map predicate ++
    Vocabulary.members.map literal ++ Vocabulary.members.map scalar ++
      Vocabulary.members.map aggregate

theorem mem_members (token : CapabilityToken) : token ∈ members := by
  cases token <;> simp [members, Vocabulary.mem_members]

/-- Listing one more kind repeats no token. -/
theorem nodup_append_map {α : Type} [Vocabulary α] {kind : α → CapabilityToken}
    {l : List CapabilityToken} (hl : l.Nodup) (hkind : Function.Injective kind)
    (hnew : ∀ a, kind a ∉ l) : (l ++ Vocabulary.members.map kind).Nodup := by
  refine hl.append (Vocabulary.nodup_members.map hkind) fun token hold htoken => ?_
  obtain ⟨a, -, rfl⟩ := List.mem_map.1 htoken
  exact hnew a hold

theorem nodup_members : members.Nodup := by
  have hmain : (Vocabulary.members.map main).Nodup :=
    Vocabulary.nodup_members.map fun _ _ => main.inj
  have hpredicates := nodup_append_map hmain (fun _ _ => predicate.inj) (by simp)
  have hliterals := nodup_append_map hpredicates (fun _ _ => literal.inj) (by simp)
  have hscalars := nodup_append_map hliterals (fun _ _ => scalar.inj) (by simp)
  exact nodup_append_map hscalars (fun _ _ => aggregate.inj) (by simp)

end CapabilityToken

namespace CapabilitySet

variable {s t r : CapabilitySet} {token : CapabilityToken} {x : List ScalarFunction}

/-! ## all tokens -/

/-- Whether a token is in the part of its kind. -/
def has (s : CapabilitySet) : CapabilityToken → Bool
  | .main token => s.main.contains token
  | .predicate token => s.predicates.contains token
  | .literal token => s.literals.contains token
  | .scalar function => s.scalars.contains function
  | .aggregate token => s.aggregates.contains token

/-- The set of all tokens. -/
def tokens (s : CapabilitySet) : Finset CapabilityToken :=
  ⟨CapabilityToken.members.filter s.has, CapabilityToken.nodup_members.filter _⟩

@[simp] theorem mem_tokens : token ∈ s.tokens ↔ s.has token = true :=
  List.mem_filter.trans (and_iff_right token.mem_members)

/-- The size is the number of tokens. -/
theorem card_tokens (s : CapabilitySet) : s.tokens.card = s.size := by
  have hpart {α : Type} [Vocabulary α] {kind : α → CapabilityToken} {part : TokenSet α}
      (hkind : s.has ∘ kind = part.contains) :
      ((Vocabulary.members.map kind).filter s.has).length = part.size := by
    rw [List.filter_map, hkind, List.length_map, TokenSet.size, TokenSet.toList]
  have hcard : s.tokens.card = (CapabilityToken.members.filter s.has).length := rfl
  rw [hcard, CapabilityToken.members]
  simp only [List.filter_append, List.length_append]
  rw [hpart rfl, hpart rfl, hpart rfl, hpart rfl, hpart rfl, size]

/-! ## tests -/

/-- One set contains another when it has all its tokens. -/
theorem containsAll_iff_subset : s.containsAll t = true ↔ t.tokens ⊆ s.tokens := by
  simp only [containsAll_iff, Finset.subset_iff, mem_tokens]
  constructor
  · rintro ⟨hmain, hpredicates, hliterals, hscalars, haggregates⟩ token htoken
    cases token with
    | main token => exact hmain token htoken
    | predicate token => exact hpredicates token htoken
    | literal token => exact hliterals token htoken
    | scalar function => exact hscalars function htoken
    | aggregate token => exact haggregates token htoken
  · intro h
    exact ⟨fun a ha => @h (.main a) ha, fun a ha => @h (.predicate a) ha,
      fun a ha => @h (.literal a) ha, fun a ha => @h (.scalar a) ha,
      fun a ha => @h (.aggregate a) ha⟩

/-- A set is empty when it has no token of any kind. -/
theorem isEmpty_iff_tokens : s.isEmpty = true ↔ s.tokens = ∅ := by
  rw [← Finset.card_eq_zero, card_tokens]
  simp [isEmpty, size, TokenSet.isEmpty, TokenSet.size, and_assoc]

/-! ## operations -/

@[simp] theorem tokens_union (s t : CapabilitySet) : (s ∪ t).tokens = s.tokens ∪ t.tokens := by
  ext token
  rw [Finset.mem_union, mem_tokens, mem_tokens, mem_tokens]
  cases token <;> exact Bool.or_eq_true_iff

@[simp] theorem tokens_missing (s required : CapabilitySet) :
    (s.missing required).tokens = required.tokens \ s.tokens := by
  ext token
  rw [Finset.mem_sdiff, mem_tokens, mem_tokens, mem_tokens]
  cases token <;> simp [has, missing]

@[simp] theorem tokens_withoutScalars (s : CapabilitySet) (x : List ScalarFunction) :
    (s.withoutScalars x).tokens = s.tokens \ (x.map .scalar).toFinset := by
  ext token
  rw [Finset.mem_sdiff, mem_tokens, mem_tokens]
  cases token <;> simp [has, withoutScalars]

/-- Without some scalar functions, a set contains what it contained and what has none of them. -/
theorem withoutScalars_containsAll_iff :
    (s.withoutScalars x).containsAll r = true ↔
      s.containsAll r = true ∧ ∀ f, r.scalars.contains f = true → f ∉ x := by
  have hscalars : Disjoint r.tokens (x.map CapabilityToken.scalar).toFinset ↔
      ∀ f, r.scalars.contains f = true → f ∉ x := by
    rw [Finset.disjoint_right]
    simp [has, imp_not_comm]
  rw [containsAll_iff_subset, containsAll_iff_subset, tokens_withoutScalars, Finset.subset_sdiff,
    hscalars]

/-! ## what is missing -/

/-- **What is missing agrees with whether anything is**: the test, the emptiness and the size of
what is missing give one answer; what is missing makes up for the lack and is part of whatever does;
it is what remains of the needs after the common tokens; and taking scalar functions away from a
target matters to the needs that have one of them, and to no others. -/
theorem missing_consistent (d r : CapabilitySet) :
    (d.containsAll r = true ↔ (d.missing r).isEmpty = true) ∧
    ((d.missing r).isEmpty = true ↔ (d.missing r).size = 0) ∧
    (d ∪ d.missing r).containsAll r = true ∧
    (∀ e : CapabilitySet, e.containsAll d = true → e.containsAll r = true →
      e.containsAll (d.missing r) = true) ∧
    (d.missing r).size + (d.tokens ∩ r.tokens).card = r.size ∧
    ∀ x, (d.withoutScalars x).containsAll r = true ↔
      d.containsAll r = true ∧ ∀ f, r.scalars.contains f = true → f ∉ x := by
  refine ⟨?_, ?_, ?_, ?_, ?_, fun x => withoutScalars_containsAll_iff⟩
  · rw [containsAll_iff_subset, isEmpty_iff_tokens, tokens_missing,
      Finset.sdiff_eq_empty_iff_subset]
  · rw [isEmpty_iff_tokens, ← card_tokens, Finset.card_eq_zero]
  · rw [containsAll_iff_subset, tokens_union, tokens_missing, Finset.union_sdiff_self_eq_union]
    exact Finset.subset_union_right
  · intro e _ hr
    rw [containsAll_iff_subset] at hr ⊢
    rw [tokens_missing]
    exact Finset.sdiff_subset.trans hr
  · rw [← card_tokens, ← card_tokens, tokens_missing, Finset.inter_comm,
      Finset.card_sdiff_add_card_inter]

/-- A target with row limits but no offsets and no functions lacks two of three tokens. -/
theorem missing_consistent_offset :
    (ofMain [.limit]).containsAll (ofMain [.limit, .limitWithOffset] ∪ ofScalars [.abs]) = false ∧
      ((ofMain [.limit]).missing (ofMain [.limit, .limitWithOffset] ∪ ofScalars [.abs])).size = 2 ∧
      all.containsAll
        ((ofMain [.limit]).missing (ofMain [.limit, .limitWithOffset] ∪ ofScalars [.abs])) =
          true := by
  obtain ⟨hempty, -, -, hleast, -⟩ :=
    missing_consistent (ofMain [.limit]) (ofMain [.limit, .limitWithOffset] ∪ ofScalars [.abs])
  refine ⟨?_, by decide, hleast all (by decide) (by decide)⟩
  rw [Bool.eq_false_iff, ne_eq, hempty]
  decide

end CapabilitySet

end RemoteQuery
