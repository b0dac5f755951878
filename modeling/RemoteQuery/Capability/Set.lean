import RemoteQuery.Capability.Token
import RemoteQuery.Query.Function

/-!
# RemoteQuery.Capability.Set

Sets of tokens, and the five of them that make up a capability set.  A set is
given by its members; it is listed in the order of the vocabulary.

* `TokenSet.mem_toList` — a set lists exactly its members;
* `TokenSet.subset_iff` — one set is part of another when each of its members is.
-/

namespace RemoteQuery

/-- A set of words of a vocabulary, given by its members. -/
@[ext]
structure TokenSet (α : Type) where
  contains : α → Bool

namespace TokenSet

variable {α : Type}

/-- No token. -/
def empty : TokenSet α := ⟨fun _ => false⟩

/-- Every token. -/
def all : TokenSet α := ⟨fun _ => true⟩

/-- The tokens of a list. -/
def ofList [DecidableEq α] (l : List α) : TokenSet α := ⟨fun a => l.contains a⟩

/-- The tokens of either set. -/
def union (s t : TokenSet α) : TokenSet α := ⟨fun a => s.contains a || t.contains a⟩

/-- The tokens of `s` that are not in `t`. -/
def diff (s t : TokenSet α) : TokenSet α := ⟨fun a => s.contains a && !t.contains a⟩

instance : Union (TokenSet α) := ⟨union⟩

instance : SDiff (TokenSet α) := ⟨diff⟩

@[simp] theorem contains_empty (a : α) : (empty : TokenSet α).contains a = false := rfl

@[simp] theorem contains_all (a : α) : (all : TokenSet α).contains a = true := rfl

@[simp] theorem contains_ofList [DecidableEq α] (l : List α) (a : α) :
    (ofList l).contains a = l.contains a := rfl

@[simp] theorem contains_union (s t : TokenSet α) (a : α) :
    (s ∪ t).contains a = (s.contains a || t.contains a) := rfl

@[simp] theorem contains_diff (s t : TokenSet α) (a : α) :
    (s \ t).contains a = (s.contains a && !t.contains a) := rfl

variable [Vocabulary α]

/-- The tokens in the order of the vocabulary. -/
def toList (s : TokenSet α) : List α :=
  Vocabulary.members.filter s.contains

/-- A set lists exactly its members. -/
@[simp] theorem mem_toList {s : TokenSet α} {a : α} : a ∈ s.toList ↔ s.contains a = true := by
  rw [toList, List.mem_filter]
  exact and_iff_right (Vocabulary.mem_members a)

/-- The number of tokens. -/
def size (s : TokenSet α) : Nat :=
  s.toList.length

/-- Whether there is no token. -/
def isEmpty (s : TokenSet α) : Bool :=
  s.toList.isEmpty

/-- Whether every token of `s` is in `t`. -/
def subset (s t : TokenSet α) : Bool :=
  s.toList.all t.contains

/-- One set is part of another when each of its members is a member of the other. -/
theorem subset_iff {s t : TokenSet α} :
    s.subset t = true ↔ ∀ a, s.contains a = true → t.contains a = true := by
  simp [subset, List.all_eq_true]

end TokenSet

/-- What a target can do, or what a query needs. -/
@[ext]
structure CapabilitySet where
  main : TokenSet MainCapability
  predicates : TokenSet PredicateCapability
  literals : TokenSet LiteralCapability
  scalars : TokenSet ScalarFunction
  aggregates : TokenSet AggregateCapability

namespace CapabilitySet

/-- No token. -/
def empty : CapabilitySet := ⟨.empty, .empty, .empty, .empty, .empty⟩

/-- Every token. -/
def all : CapabilitySet := ⟨.all, .all, .all, .all, .all⟩

/-- The tokens of either set. -/
def union (s t : CapabilitySet) : CapabilitySet where
  main := s.main ∪ t.main
  predicates := s.predicates ∪ t.predicates
  literals := s.literals ∪ t.literals
  scalars := s.scalars ∪ t.scalars
  aggregates := s.aggregates ∪ t.aggregates

instance : Union CapabilitySet := ⟨union⟩

/-- The set of a list of query shapes. -/
def ofMain (l : List MainCapability) : CapabilitySet := { empty with main := .ofList l }

/-- The set of a list of conditions. -/
def ofPredicates (l : List PredicateCapability) : CapabilitySet :=
  { empty with predicates := .ofList l }

/-- The set of a list of kinds of constants. -/
def ofLiterals (l : List LiteralCapability) : CapabilitySet := { empty with literals := .ofList l }

/-- The set of a list of scalar functions. -/
def ofScalars (l : List ScalarFunction) : CapabilitySet := { empty with scalars := .ofList l }

/-- The set of a list of aggregates. -/
def ofAggregates (l : List AggregateCapability) : CapabilitySet :=
  { empty with aggregates := .ofList l }

/-- The set without some scalar functions. -/
def withoutScalars (s : CapabilitySet) (l : List ScalarFunction) : CapabilitySet :=
  { s with scalars := s.scalars \ .ofList l }

/-- Whether every required token is in the set. -/
def containsAll (s required : CapabilitySet) : Bool :=
  required.main.subset s.main && required.predicates.subset s.predicates &&
    required.literals.subset s.literals && required.scalars.subset s.scalars &&
    required.aggregates.subset s.aggregates

/-- The required tokens that are not in the set. -/
def missing (s required : CapabilitySet) : CapabilitySet where
  main := required.main \ s.main
  predicates := required.predicates \ s.predicates
  literals := required.literals \ s.literals
  scalars := required.scalars \ s.scalars
  aggregates := required.aggregates \ s.aggregates

/-- Whether there is no token. -/
def isEmpty (s : CapabilitySet) : Bool :=
  s.main.isEmpty && s.predicates.isEmpty && s.literals.isEmpty && s.scalars.isEmpty &&
    s.aggregates.isEmpty

/-- The number of tokens. -/
def size (s : CapabilitySet) : Nat :=
  s.main.size + s.predicates.size + s.literals.size + s.scalars.size + s.aggregates.size

/-! ## what most targets share -/

/-- The query shapes of every target, limits aside. -/
def standardMain : CapabilitySet :=
  ofMain
    [.selectListProjection, .selectListExpressions, .filterExpressions, .aggregateSingleGroup,
     .aggregateGroupByColumn, .aggregateGroupByExpression, .aggregateHaving, .orderByColumn,
     .orderByExpression]

/-- Every condition. -/
def everyPredicate : CapabilitySet := { empty with predicates := .all }

/-- The constants every relational target writes alike. -/
def standardLiterals : CapabilitySet :=
  ofLiterals [.null, .date, .timestamp, .double, .exactNumeric, .string]

/-- Every scalar function. -/
def everyScalar : CapabilitySet := { empty with scalars := .all }

/-- The aggregates every target has. -/
def standardAggregates : CapabilitySet :=
  ofAggregates
    [.count, .countStar, .countDistinct, .sum, .sumDistinct, .min, .max, .avg, .avgDistinct]

/-- What every relational target with the whole function vocabulary can do. -/
def relational : CapabilitySet :=
  standardMain ∪ everyPredicate ∪ standardLiterals ∪ everyScalar ∪ standardAggregates

end CapabilitySet

end RemoteQuery
