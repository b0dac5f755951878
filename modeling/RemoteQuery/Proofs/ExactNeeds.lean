import RemoteQuery.Proofs.Needs

/-!
# RemoteQuery.Proofs.ExactNeeds

A query needs a token exactly when it uses what the token stands for.  What a
token stands for is said by `Describes`, in the words of the query and without
the functions that collect tokens.

* `Expr.containsAggregate_iff_needs` — the search for aggregates and the
  collection of tokens agree on whether an expression aggregates;
* `Select.needs_main_iff` — the tokens of the shape of a query;
* `Select.needs_iff_describes` — all tokens together.
-/

namespace RemoteQuery

/-! ## what tokens stand for -/

/-- The constants of a kind. -/
inductive LiteralCapability.Describes : LiteralCapability → Literal → Prop
  | null : Describes null .null
  | bool (b : Bool) : Describes bool (.bool b)
  | date (d : Date) : Describes date (.date d)
  | timestamp (t : Timestamp) : Describes timestamp (.timestamp t)
  | double (x : Double) : Describes double (.double x)
  | exactNumeric (d : Decimal) : Describes exactNumeric (.exactNumeric d)
  | string (s : String) : Describes string (.string s)
  | interval (s : String) (kind : IntervalKind) : Describes interval (.interval s kind)

/-- The conditions of a kind; one with an escape character is of two kinds. -/
inductive PredicateCapability.Describes : PredicateCapability → Expr → Prop
  | and (es : List Expr) : Describes .and (.and es)
  | or (es : List Expr) : Describes .or (.or es)
  | not (e : Expr) : Describes .not (.not e)
  | equal (l r : Expr) : Describes equal (.compare .equal l r)
  | notEqual (l r : Expr) : Describes notEqual (.compare .notEqual l r)
  | less (l r : Expr) : Describes less (.compare .less l r)
  | lessEqual (l r : Expr) : Describes lessEqual (.compare .lessEqual l r)
  | greater (l r : Expr) : Describes greater (.compare .greater l r)
  | greaterEqual (l r : Expr) : Describes greaterEqual (.compare .greaterEqual l r)
  | like (e p : Expr) : Describes like (.like e p)
  | likeOfEscape (e p x : Expr) : Describes like (.likeEscape e p x)
  | likeEscape (e p x : Expr) : Describes likeEscape (.likeEscape e p x)
  | between (e l h : Expr) : Describes between (.between e l h)
  | inConstList (e : Expr) (es : List Expr) : Describes inConstList (.inList e es)
  | isNull (e : Expr) : Describes isNull (.isNull e false)
  | isNotNull (e : Expr) : Describes isNotNull (.isNull e true)

/-- The aggregate calls of a flavour; a concatenation is of every flavour it uses. -/
inductive AggregateCapability.Describes : AggregateCapability → Expr → Prop
  | countStar {distinct orderBy separator} :
      Describes countStar (.aggregate .count [] distinct orderBy separator)
  | count {arg args orderBy separator} :
      Describes count (.aggregate .count (arg :: args) false orderBy separator)
  | countDistinct {arg args orderBy separator} :
      Describes countDistinct (.aggregate .count (arg :: args) true orderBy separator)
  | sum {args orderBy separator} : Describes sum (.aggregate .sum args false orderBy separator)
  | sumDistinct {args orderBy separator} :
      Describes sumDistinct (.aggregate .sum args true orderBy separator)
  | min {args distinct orderBy separator} :
      Describes min (.aggregate .min args distinct orderBy separator)
  | max {args distinct orderBy separator} :
      Describes max (.aggregate .max args distinct orderBy separator)
  | avg {args orderBy separator} : Describes avg (.aggregate .avg args false orderBy separator)
  | avgDistinct {args orderBy separator} :
      Describes avgDistinct (.aggregate .avg args true orderBy separator)
  | median {args distinct orderBy separator} :
      Describes median (.aggregate .median args distinct orderBy separator)
  | stddev {args distinct orderBy separator} :
      Describes stddev (.aggregate .stddev args distinct orderBy separator)
  | variance {args distinct orderBy separator} :
      Describes variance (.aggregate .variance args distinct orderBy separator)
  | groupConcat {args distinct orderBy separator} :
      Describes groupConcat (.aggregate .groupConcat args distinct orderBy separator)
  | groupConcatDistinct {args orderBy separator} :
      Describes groupConcatDistinct (.aggregate .groupConcat args true orderBy separator)
  | groupConcatSeparator {args distinct orderBy separator} :
      Describes groupConcatSeparator
        (.aggregate .groupConcat args distinct orderBy (some separator))
  | groupConcatOrderBy {args distinct key keys separator} :
      Describes groupConcatOrderBy (.aggregate .groupConcat args distinct (key :: keys) separator)

/-- The queries of a shape. -/
def MainCapability.Describes (s : Select) : MainCapability → Prop
  | selectListProjection => ∃ es, s.selectList = .exprs es ∧ ∀ e ∈ es, ∃ c, e = .column c
  | selectListExpressions => ∃ es, s.selectList = .exprs es ∧ ∃ e ∈ es, ∀ c, e ≠ .column c
  | filterExpressions => ∃ e, s.filter = some e
  | aggregateSingleGroup => s.groupBy = [] ∧ ∃ token,
      (Expr.needsAll (s.selectList.items ++ s.having.toList)).aggregates.contains token = true
  | aggregateGroupByColumn => s.groupBy ≠ [] ∧ ∀ e ∈ s.groupBy, ∃ c, e = .column c
  | aggregateGroupByExpression => s.groupBy ≠ [] ∧ ∃ e ∈ s.groupBy, ∀ c, e ≠ .column c
  | aggregateHaving => ∃ e, s.having = some e
  | orderByColumn => ∃ k ∈ s.orderBy, ∃ c, k.expr = .column c
  | orderByExpression => ∃ k ∈ s.orderBy, ∀ c, k.expr ≠ .column c
  | limit => ∃ l, s.limit = some l
  | limitWithOffset => ∃ l m, s.limit = some l ∧ l.offset = some m

/-! ## tokens of one expression -/

namespace CapabilitySet

theorem asksForToken_predicate (k : PredicateCapability) :
    AsksForToken fun c => c.predicates.contains k = true :=
  ⟨Bool.false_ne_true, fun _ _ => Bool.or_eq_true_iff⟩

theorem asksForToken_literal (k : LiteralCapability) :
    AsksForToken fun c => c.literals.contains k = true :=
  ⟨Bool.false_ne_true, fun _ _ => Bool.or_eq_true_iff⟩

theorem asksForToken_aggregate (k : AggregateCapability) :
    AsksForToken fun c => c.aggregates.contains k = true :=
  ⟨Bool.false_ne_true, fun _ _ => Bool.or_eq_true_iff⟩

/-- Asking for any one of several tokens is asking for a token. -/
theorem AsksForToken.exists {α : Type} {has : α → CapabilitySet → Prop}
    (h : ∀ a, AsksForToken (has a)) : AsksForToken fun c => ∃ a, has a c where
  not_empty := fun ⟨a, ha⟩ => (h a).not_empty ha
  union_iff a b := by simp only [(h _).union_iff, exists_or]

end CapabilitySet

theorem LiteralCapability.describes_iff {k : LiteralCapability} {l : Literal} :
    k.Describes l ↔ l.capability = k := by
  constructor
  · rintro ⟨⟩ <;> rfl
  · rintro rfl
    cases l <;> constructor

theorem AggregateCapability.describes_aggregate {k : AggregateCapability} {f : AggregateFunction}
    {args : List Expr} {distinct : Bool} {orderBy : List (OrderKey Expr)}
    {separator : Option String} :
    k.Describes (.aggregate f args distinct orderBy separator) ↔
      k ∈ f.capabilities args.isEmpty distinct separator.isSome !orderBy.isEmpty := by
  constructor
  · intro h
    cases h <;> simp [AggregateFunction.capabilities]
  · intro h
    cases f with
    | count =>
      cases args <;> cases distinct <;> cases List.mem_singleton.1 h <;> constructor
    | sum | avg => cases distinct <;> cases List.mem_singleton.1 h <;> constructor
    | min | max | median | stddev | variance => cases List.mem_singleton.1 h; constructor
    | groupConcat =>
      simp only [AggregateFunction.capabilities, List.cons_append, List.mem_cons, List.mem_append,
        List.mem_ite_nil_right, List.not_mem_nil, or_false] at h
      obtain rfl | (⟨rfl, rfl⟩ | ⟨hs, rfl⟩) | ⟨ho, rfl⟩ := h
      · constructor
      · constructor
      · obtain ⟨separator, rfl⟩ := Option.isSome_iff_exists.1 hs
        constructor
      · cases orderBy with
        | nil => contradiction
        | cons key keys => constructor

namespace Expr

theorem rootNeeds_scalars {x : Expr} {f : ScalarFunction} :
    x.rootNeeds.scalars.contains f = true ↔ ∃ args, x = .scalar f args := by
  cases x <;> simp [rootNeeds, CapabilitySet.empty, CapabilitySet.ofLiterals,
    CapabilitySet.ofPredicates, CapabilitySet.ofScalars, CapabilitySet.ofAggregates, eq_comm]

theorem rootNeeds_literals {x : Expr} {k : LiteralCapability} :
    x.rootNeeds.literals.contains k = true ↔ ∃ l, x = .literal l ∧ k.Describes l := by
  cases x <;> simp [rootNeeds, CapabilitySet.empty, CapabilitySet.ofLiterals,
    CapabilitySet.ofPredicates, CapabilitySet.ofScalars, CapabilitySet.ofAggregates,
    LiteralCapability.describes_iff, eq_comm]

theorem rootNeeds_predicates {x : Expr} {k : PredicateCapability} :
    x.rootNeeds.predicates.contains k = true ↔ k.Describes x := by
  constructor
  · intro h
    cases x with
    | compare op l r =>
      cases op <;> cases List.mem_singleton.1 (List.contains_iff_mem.1 h) <;> constructor
    | isNull e negated =>
      cases negated <;> cases List.mem_singleton.1 (List.contains_iff_mem.1 h) <;> constructor
    | likeEscape e p x =>
      obtain rfl | rfl : k = .like ∨ k = .likeEscape := by
        simpa [rootNeeds, CapabilitySet.ofPredicates] using h
      · exact .likeOfEscape e p x
      · exact .likeEscape e p x
    | column | literal | scalar | aggregate => cases h
    | _ => cases List.mem_singleton.1 (List.contains_iff_mem.1 h); constructor
  · rintro ⟨⟩ <;> rfl

theorem rootNeeds_aggregates {x : Expr} {k : AggregateCapability} :
    x.rootNeeds.aggregates.contains k = true ↔ k.Describes x := by
  cases x with
  | aggregate f args distinct orderBy separator =>
    rw [AggregateCapability.describes_aggregate]
    exact List.contains_iff_mem
  | _ =>
    constructor
    · intro h
      cases h
    · rintro ⟨⟩

/-- An aggregate call has a token, whatever its function is. -/
theorem exists_rootNeeds_aggregates {x : Expr} :
    (∃ k, x.rootNeeds.aggregates.contains k = true) ↔
      ∃ f args distinct orderBy separator, x = .aggregate f args distinct orderBy separator := by
  simp only [rootNeeds_aggregates]
  constructor
  · rintro ⟨k, ⟨⟩⟩ <;> exact ⟨_, _, _, _, _, rfl⟩
  · rintro ⟨f, args, distinct, orderBy, separator, rfl⟩
    cases f with
    | count =>
      cases args with
      | nil => exact ⟨_, .countStar⟩
      | cons => cases distinct with
        | true => exact ⟨_, .countDistinct⟩
        | false => exact ⟨_, .count⟩
    | sum => cases distinct with
      | true => exact ⟨_, .sumDistinct⟩
      | false => exact ⟨_, .sum⟩
    | avg => cases distinct with
      | true => exact ⟨_, .avgDistinct⟩
      | false => exact ⟨_, .avg⟩
    | min => exact ⟨_, .min⟩
    | max => exact ⟨_, .max⟩
    | median => exact ⟨_, .median⟩
    | stddev => exact ⟨_, .stddev⟩
    | variance => exact ⟨_, .variance⟩
    | groupConcat => exact ⟨_, .groupConcat⟩

/-! ## two traversals for aggregates -/

theorem anyContainsAggregate_iff {es : List Expr} :
    anyContainsAggregate es = true ↔ ∃ e ∈ es, e.containsAggregate = true := by
  induction es with
  | nil => simp [anyContainsAggregate]
  | cons e es ih => simp [anyContainsAggregate, ih]

/-- The search stops at an aggregate call and looks into everything else. -/
theorem containsAggregate_iff_children {e : Expr} :
    e.containsAggregate = true ↔
      (∃ f args distinct orderBy separator, e = .aggregate f args distinct orderBy separator) ∨
        ∃ c ∈ e.children, c.containsAggregate = true := by
  cases e <;> simp [containsAggregate, anyContainsAggregate_iff, children, operands, or_assoc]

/-- An expression aggregates exactly when it needs a token of an aggregate. -/
theorem containsAggregate_iff_needs {e : Expr} :
    e.containsAggregate = true ↔ ∃ k, e.needs.aggregates.contains k = true := by
  have h := CapabilitySet.AsksForToken.exists CapabilitySet.asksForToken_aggregate
  induction e using childInduction with
  | step e ih =>
    rw [containsAggregate_iff_children, needs_eq, h.union_iff, needsAll_iff h,
      exists_rootNeeds_aggregates]
    refine or_congr_right ⟨?_, ?_⟩
    · rintro ⟨c, hc, hagg⟩
      exact ⟨c, hc, (ih c hc).1 hagg⟩
    · rintro ⟨c, hc, hneeds⟩
      exact ⟨c, hc, (ih c hc).2 hneeds⟩

/-- No expression needs a token of the shape of a query. -/
theorem needsAll_main (m : MainCapability) (es : List Expr) :
    (needsAll es).main.contains m = false := by
  have h := CapabilitySet.asksForToken_main m
  refine Bool.eq_false_iff.2 fun hm => ?_
  obtain ⟨e, -, he⟩ := (needsAll_iff h es).1 hm
  obtain ⟨x, -, hx⟩ := (needs_iff_occurs h e).1 he
  cases x <;> cases hx

theorem isColumn_iff {e : Expr} : e.isColumn = true ↔ ∃ c, e = .column c := by
  cases e <;> simp [isColumn]

/-- Of two tokens, one stands for columns only and the other for everything else. -/
theorem eq_columnVariant {m a b : MainCapability} {es : List Expr} :
    m = (if es.all isColumn then a else b) ↔
      (m = a ∧ ∀ e ∈ es, ∃ c, e = .column c) ∨ (m = b ∧ ∃ e ∈ es, ∀ c, e ≠ .column c) := by
  have hall : es.all isColumn = true ↔ ∀ e ∈ es, ∃ c, e = .column c := by
    simp only [List.all_eq_true, isColumn_iff]
  have hsome : (∃ e ∈ es, ∀ c, e ≠ .column c) ↔ ¬∀ e ∈ es, ∃ c, e = .column c := by
    simp
  rw [hsome, ← hall]
  split
  next h => simp [h]
  next h => simp [h]

theorem orderCapability_eq {e : Expr} :
    e.orderCapability = if [e].all isColumn then .orderByColumn else .orderByExpression := by
  simp [orderCapability]

end Expr

namespace Select

open CapabilitySet

variable {s : Select}

/-! ## tokens of the shape -/

theorem hasAggregates_iff : s.hasAggregates = true ↔ ∃ token,
    (Expr.needsAll (s.selectList.items ++ s.having.toList)).aggregates.contains token = true := by
  have h := AsksForToken.exists asksForToken_aggregate
  rw [Expr.needsAll_append, h.union_iff, Expr.needsAll_iff h, Expr.needsAll_iff h, hasAggregates,
    Bool.or_eq_true]
  simp only [← Expr.containsAggregate_iff_needs]
  refine or_congr ?_ ?_
  · cases s.selectList with
    | star | anyColumn => simp [SelectList.items]
    | exprs es => exact Expr.anyContainsAggregate_iff
  · cases s.having <;> simp

variable {m : MainCapability}

theorem notMem_empty : empty.main.contains m = false := rfl

theorem needsOfList_main {l : SelectList} : (needsOfList l).main.contains m = true ↔
    (m = .selectListProjection ∧ ∃ es, l = .exprs es ∧ ∀ e ∈ es, ∃ c, e = .column c) ∨
      (m = .selectListExpressions ∧ ∃ es, l = .exprs es ∧ ∃ e ∈ es, ∀ c, e ≠ .column c) := by
  have h := asksForToken_main m
  cases l with
  | star | anyColumn => simp [needsOfList, notMem_empty]
  | exprs es =>
    simp only [needsOfList, h.union_iff, Expr.needsAll_main, ofMain, TokenSet.contains_ofList,
      List.contains_iff_mem, List.mem_singleton, Expr.eq_columnVariant]
    simp

theorem needsOfClause_main {token : MainCapability} {clause : Option Expr} :
    (needsOfClause token clause).main.contains m = true ↔ m = token ∧ ∃ e, clause = some e := by
  have h := asksForToken_main m
  cases clause with
  | none => simp [needsOfClause, notMem_empty]
  | some e =>
    have he : e.needs.main.contains m = false := by
      simpa [Expr.needsAll] using Expr.needsAll_main m [e]
    simp [needsOfClause, h.union_iff, he, ofMain]

theorem needsOfGroups_main : s.needsOfGroups.main.contains m = true ↔
    (m = .aggregateSingleGroup ∧ s.groupBy = [] ∧ s.hasAggregates = true) ∨
      (m = .aggregateGroupByColumn ∧ s.groupBy ≠ [] ∧ ∀ e ∈ s.groupBy, ∃ c, e = .column c) ∨
      (m = .aggregateGroupByExpression ∧ s.groupBy ≠ [] ∧
        ∃ e ∈ s.groupBy, ∀ c, e ≠ .column c) := by
  have h := asksForToken_main m
  rw [needsOfGroups]
  cases s.groupBy with
  | nil => by_cases hagg : s.hasAggregates = true <;> simp [hagg, notMem_empty, ofMain]
  | cons e es =>
    simp only [h.union_iff, Expr.needsAll_main, ofMain, TokenSet.contains_ofList,
      List.contains_iff_mem, List.mem_singleton, Expr.eq_columnVariant]
    simp

theorem needsOfOrder_main {keys : List (OrderKey Expr)} :
    (ofMain (keys.map fun k => k.expr.orderCapability) ∪ Expr.needsOfKeys keys).main.contains m =
      true ↔
    (m = .orderByColumn ∧ ∃ k ∈ keys, ∃ c, k.expr = .column c) ∨
      (m = .orderByExpression ∧ ∃ k ∈ keys, ∀ c, k.expr ≠ .column c) := by
  have h := asksForToken_main m
  have hkey : ∀ e : Expr, e.orderCapability = m ↔ (m = .orderByColumn ∧ ∃ c, e = .column c) ∨
      (m = .orderByExpression ∧ ∀ c, e ≠ .column c) := by
    intro e
    rw [eq_comm, Expr.orderCapability_eq, Expr.eq_columnVariant]
    simp only [List.mem_singleton, forall_eq, exists_eq_left]
  simp only [h.union_iff, Expr.needsOfKeys_eq, Expr.needsAll_main, ofMain,
    TokenSet.contains_ofList, List.contains_iff_mem, List.mem_map, hkey]
  grind

theorem needsOfLimit_main {l : Option RowLimit} : (needsOfLimit l).main.contains m = true ↔
    (m = .limit ∧ ∃ w, l = some w) ∨
      (m = .limitWithOffset ∧ ∃ w n, l = some w ∧ w.offset = some n) := by
  cases l with
  | none => simp [needsOfLimit, notMem_empty]
  | some w => cases ho : w.offset <;> simp [needsOfLimit, ofMain, ho]

/-- A token of the shape is needed exactly by the queries of that shape. -/
theorem needs_main_iff : s.needs.main.contains m = true ↔ m.Describes s := by
  have h := asksForToken_main m
  have hneeds : s.needs = needsOfList s.selectList ∪ needsOfClause .filterExpressions s.filter ∪
      s.needsOfGroups ∪ needsOfClause .aggregateHaving s.having ∪
      (ofMain (s.orderBy.map fun k => k.expr.orderCapability) ∪ Expr.needsOfKeys s.orderBy) ∪
      needsOfLimit s.limit := by
    simp only [needs, union_assoc]
  have horder : (ofMain (s.orderBy.map fun k => k.expr.orderCapability) ∪
      Expr.needsOfKeys s.orderBy).main.contains m = true ↔ _ := needsOfOrder_main
  rw [hneeds]
  generalize ofMain (s.orderBy.map _) ∪ Expr.needsOfKeys s.orderBy = order at horder ⊢
  simp only [h.union_iff, needsOfList_main, needsOfClause_main, needsOfGroups_main, horder,
    needsOfLimit_main, hasAggregates_iff]
  cases m <;> simp [MainCapability.Describes]

/-- **A query needs a token exactly when it uses what the token stands for**: scalar functions,
constants, conditions and aggregates anywhere in its expressions, and shapes of the query itself. -/
theorem needs_iff_describes (s : Select) :
    (∀ f, s.needs.scalars.contains f = true ↔ ∃ args, s.Occurs (.scalar f args)) ∧
    (∀ k, s.needs.literals.contains k = true ↔ ∃ l, s.Occurs (.literal l) ∧ k.Describes l) ∧
    (∀ k, s.needs.predicates.contains k = true ↔ ∃ e, s.Occurs e ∧ k.Describes e) ∧
    (∀ k, s.needs.aggregates.contains k = true ↔ ∃ e, s.Occurs e ∧ k.Describes e) ∧
    ∀ k, s.needs.main.contains k = true ↔ k.Describes s := by
  refine ⟨fun f => ?_, fun k => ?_, fun k => ?_, fun k => ?_, fun k => needs_main_iff⟩
  · rw [has_needs_iff (asksForToken_scalar f) fun _ => Bool.false_ne_true]
    simp only [Expr.rootNeeds_scalars]
    exact ⟨fun ⟨_, hx, args, he⟩ => ⟨args, he ▸ hx⟩, fun ⟨args, hx⟩ => ⟨_, hx, args, rfl⟩⟩
  · rw [has_needs_iff (asksForToken_literal k) fun _ => Bool.false_ne_true]
    simp only [Expr.rootNeeds_literals]
    exact ⟨fun ⟨_, hx, l, he, hl⟩ => ⟨l, he ▸ hx, hl⟩, fun ⟨l, hx, hl⟩ => ⟨_, hx, l, rfl, hl⟩⟩
  · rw [has_needs_iff (asksForToken_predicate k) fun _ => Bool.false_ne_true]
    simp only [Expr.rootNeeds_predicates]
  · rw [has_needs_iff (asksForToken_aggregate k) fun _ => Bool.false_ne_true]
    simp only [Expr.rootNeeds_aggregates]

end Select

end RemoteQuery
