import RemoteQuery.Proofs.ArgumentsKept
import RemoteQuery.Proofs.FirstCharacters
import RemoteQuery.Query.Build

/-!
# RemoteQuery.Proofs.PositionalKeys

A target reads a bare integer literal among its grouping or ordering keys as the
position of a select item.  Keys are written as they are, so a constant among
them can come out as such a literal; this module says which ones do.

An integer literal consists of digits and a sign.  Whatever else is written has a
character that is neither: a point, a quote, a blank or a parenthesis.

* `Decimal.isIntegerLiteral_text`, `Double.isIntegerLiteral_text` — of the numbers,
  decimals without a fraction are integer literals;
* `Dialect.opens_scalarForm`, `Dialect.opens_aggregateForm` — calls have a
  parenthesis;
* `Target.exists_joinsKeys` — the clauses of a query join the texts of its keys;
* `Dialect.isIntegerLiteral_key` — which of these texts a target reads as positions.
-/

namespace RemoteQuery

open Calls

/-! ## integer literals -/

namespace Calls

/-- Digits with or without a sign are an integer literal. -/
theorem isIntegerLiteral_signed {sql : String} (negative : Bool) (ds : List Char)
    (hsql : sql.toList = (if negative then "-" else "").toList ++ ds) (hne : ds ≠ [])
    (hdigits : ∀ c ∈ ds, c.isDigit = true) : isIntegerLiteral sql = true := by
  have hread : Text.digits? ds = some (Nat.ofDigitChars 10 ds 0) :=
    if_pos ⟨hne, List.all_eq_true.2 hdigits⟩
  rw [isIntegerLiteral, integerLiteral?, hsql]
  cases negative with
  | true => simp [hread]
  | false =>
    obtain ⟨c, cs, rfl⟩ := List.exists_cons_of_ne_nil hne
    have hsign : c ≠ '-' := by
      rintro rfl
      exact absurd (hdigits '-' List.mem_cons_self) (by decide)
    simp [hread, hsign]

end Calls

/-- A decimal is written as an integer when no digit stands after the point. -/
theorem Decimal.isIntegerLiteral_text (d : Decimal) :
    isIntegerLiteral d.text = decide (d.scale = 0) := by
  by_cases hscale : d.scale = 0
  · have hlength := Text.length_padded 1 d.magnitude
    rw [decide_eq_true hscale]
    refine isIntegerLiteral_signed d.negative (Text.padded 1 d.magnitude).toList ?_
      (List.ne_nil_of_length_pos hlength) fun c hc => Text.isDigit_of_mem_padded hc
    rw [text, signText, if_pos hscale, hscale, Nat.sub_zero, ← String.length_toList,
      List.take_length]
    simp
  · rw [decide_eq_false hscale]
    exact isIntegerLiteral_eq_false '.' (by simp [text, hscale]) (by decide)

/-- A double is written with a point or an exponent. -/
theorem Double.isIntegerLiteral_text {x : Double} (h : x.isFinite = true) :
    isIntegerLiteral x.text = false := by
  cases x with
  | nan => cases h
  | infinity negative => cases h
  | finite negative m q =>
    rw [text]
    split
    next => exact isIntegerLiteral_eq_false '.' (by simp) (by decide)
    next =>
      dsimp only
      split
      next =>
        -- Where no fraction is left, a zero is written after the point.
        refine isIntegerLiteral_eq_false '.' ?_ (by decide)
        by_cases hwhole : 0 ≤ (shortest m q).exponent
        · simp [hwhole]
        · simp [hwhole, positional]
      next => exact isIntegerLiteral_eq_false 'e' (by simp [exponential]) (by decide)

/-! ## calls -/

namespace Calls

/-- A text with an opening parenthesis. -/
def Opens (text : String) : Prop :=
  '(' ∈ text.toList

variable {name op type : String} {args : List String}

theorem Opens.isIntegerLiteral {text : String} (h : Opens text) : isIntegerLiteral text = false :=
  isIntegerLiteral_eq_false '(' h (by decide)

instance (text : String) : Decidable (Opens text) :=
  inferInstanceAs (Decidable ('(' ∈ text.toList))

@[simp] theorem opens_call : Opens (call name args) := by
  simp [call, Opens]

@[simp] theorem opens_operatorChain : Opens (operatorChain op args) := by
  simp [operatorChain, Opens]

@[simp] theorem opens_negate : Opens (negate args) := by
  simp [negate, Opens]

@[simp] theorem opens_extractField {field : String} : Opens (extractField field args) := by
  unfold extractField Opens
  simp

@[simp] theorem opens_trimBoth : Opens (trimBoth args) := by
  unfold trimBoth
  split
  · simp [Opens]
  · exact opens_call

@[simp] theorem opens_trimOneSide {side : String} : Opens (trimOneSide name side args) := by
  unfold trimOneSide
  split
  · simp [Opens]
  · exact opens_call

@[simp] theorem opens_defaultedCall {arity : Nat} {default : String} :
    Opens (defaultedCall name args arity default) :=
  opens_call

@[simp] theorem opens_reversedCall : Opens (reversedCall name args) := by
  unfold reversedCall
  split <;> exact opens_call

@[simp] theorem opens_floorQuotient {floorDivisor : Bool} :
    Opens (floorQuotient type floorDivisor args) := by
  unfold floorQuotient
  split
  · simp [Opens]
  · exact opens_call

@[simp] theorem opens_durationSum (a : DateAdd) : Opens a.durationSum := by
  simp [DateAdd.durationSum, Opens]

@[simp] theorem opens_intervalLiteral (a : DateAdd) (precision : String) :
    Opens (a.intervalLiteral precision) := by
  unfold DateAdd.intervalLiteral
  dsimp only
  split <;> simp [Opens]

@[simp] theorem opens_listagg (c : AggregateText) : Opens c.listagg := by
  unfold AggregateText.listagg Opens
  simp

@[simp] theorem opens_separatorClause (c : AggregateText) : Opens (c.separatorClause name) := by
  simp [AggregateText.separatorClause, Opens]

theorem opens_of_some {text out : String} (htext : Opens text) (h : some text = some out) :
    Opens out := by
  cases h
  exact htext

theorem opens_of_map {form : DateAdd → String} {call : Option DateAdd} {out : String}
    (hform : ∀ a, Opens (form a)) (h : call.map form = some out) : Opens out := by
  obtain ⟨a, -, rfl⟩ := Option.map_eq_some_iff.1 h
  exact hform a

end Calls

namespace Dialect

variable {d : Dialect} {p : Properties} {t : Target} {f : ScalarFunction} {args : List String}
  {out : String} {c : AggregateText}

theorem Athena.opens_scalarForm (h : Athena.scalarForm f args = some out) : Opens out := by
  unfold Athena.scalarForm at h
  split at h
  all_goals try exact opens_of_some (by simp) h
  exact opens_of_map (fun _ => opens_call) h

theorem Db2.opens_scalarForm (h : Db2.scalarForm f args = some out) : Opens out := by
  unfold Db2.scalarForm at h
  split at h
  all_goals try exact opens_of_some (by simp) h
  exact opens_of_map opens_durationSum h

theorem Hive.opens_scalarForm (h : Hive.scalarForm f args = some out) : Opens out := by
  unfold Hive.scalarForm at h
  split at h
  all_goals try exact opens_of_some (by simp) h
  exact opens_of_map (opens_intervalLiteral · _) h

theorem Impala.opens_scalarForm (h : Impala.scalarForm f args = some out) : Opens out := by
  unfold Impala.scalarForm at h
  split at h
  all_goals try exact opens_of_some (by simp) h
  cases h

theorem MySql.opens_scalarForm (h : MySql.scalarForm f args = some out) : Opens out := by
  unfold MySql.scalarForm at h
  split at h
  all_goals try exact opens_of_some (by simp) h
  exact opens_of_map (fun _ => opens_call) h

theorem Oracle.opens_dateAdd (a : DateAdd) : Opens (Oracle.dateAdd a) := by
  unfold Oracle.dateAdd
  split <;> simp [Opens, call]

theorem Oracle.opens_scalarForm (h : Oracle.scalarForm f args = some out) : Opens out := by
  unfold Oracle.scalarForm at h
  split at h
  all_goals try exact opens_of_some (by simp) h
  · exact opens_of_some (by simp [Opens]) h
  · exact opens_of_some (by simp [Opens]) h
  · exact opens_of_map Oracle.opens_dateAdd h

theorem PostgreSql.opens_scalarForm (h : PostgreSql.scalarForm f args = some out) :
    Opens out := by
  unfold PostgreSql.scalarForm at h
  split at h
  all_goals try exact opens_of_some (by simp) h
  exact opens_of_map (opens_intervalLiteral · _) h

theorem Redshift.opens_scalarForm (h : Redshift.scalarForm f args = some out) : Opens out := by
  unfold Redshift.scalarForm at h
  split at h
  all_goals try exact opens_of_some (by simp) h
  exact opens_of_map (fun _ => opens_call) h

theorem SqlServer.opens_familyForm (h : SqlServer.familyForm f args = some out) : Opens out := by
  unfold SqlServer.familyForm at h
  split at h
  all_goals try exact opens_of_some (by simp) h
  exact opens_of_map (fun _ => opens_call) h

theorem SqlServer.opens_scalarForm (h : SqlServer.scalarForm f args = some out) : Opens out := by
  simp only [SqlServer.scalarForm, Option.orElse_eq_orElse, Option.orElse_eq_or,
    Option.or_eq_some_iff] at h
  obtain h | ⟨-, h⟩ := h
  · exact SqlServer.opens_familyForm h
  · unfold SqlServer.ownForm at h
    split at h
    all_goals try exact opens_of_some (by simp) h
    · exact opens_of_some (by decide) h
    · cases h

theorem Sybase.opens_scalarForm (h : Sybase.scalarForm f args = some out) : Opens out := by
  unfold Sybase.scalarForm at h
  split at h
  all_goals try exact opens_of_some (by simp) h
  · exact opens_of_some opens_operatorChain h
  · exact opens_of_some (by decide) h
  · exact opens_of_some (by decide) h
  · exact SqlServer.opens_familyForm h

theorem Teradata.opens_dateAdd (a : DateAdd) : Opens (Teradata.dateAdd a) := by
  unfold Teradata.dateAdd
  split <;> simp

theorem Teradata.opens_scalarForm (h : Teradata.scalarForm f args = some out) : Opens out := by
  unfold Teradata.scalarForm at h
  split at h
  all_goals try exact opens_of_some (by simp) h
  · exact opens_of_some (by simp [Opens]) h
  · exact opens_of_map Teradata.opens_dateAdd h

theorem opens_scalarForm (ht : d.target p = .ok t) (h : t.scalarForm f args = some out) :
    Opens out := by
  cases d with
  | athena => cases ht; exact Athena.opens_scalarForm h
  | db2 => cases ht; exact Db2.opens_scalarForm h
  | generic =>
    obtain ⟨_, _, _, _, _, _, rfl⟩ := Generic.exists_of_target ht
    cases h
  | hive => cases ht; exact Hive.opens_scalarForm h
  | impala => cases ht; exact Impala.opens_scalarForm h
  | mySql => cases ht; exact MySql.opens_scalarForm h
  | native => cases ht; cases h
  | oracle =>
    obtain ⟨override, rfl⟩ := Oracle.exists_of_target ht
    exact Oracle.opens_scalarForm h
  | postgreSql => cases ht; exact PostgreSql.opens_scalarForm h
  | redshift => cases ht; exact Redshift.opens_scalarForm h
  | sqlServer => cases ht; exact SqlServer.opens_scalarForm h
  | sybase => cases ht; exact Sybase.opens_scalarForm h
  | teradata => cases ht; exact Teradata.opens_scalarForm h

theorem opens_aggregateForm (ht : d.target p = .ok t) (h : t.aggregateForm c = some out) :
    Opens out := by
  cases d with
  | generic =>
    obtain ⟨_, _, _, _, _, _, rfl⟩ := Generic.exists_of_target ht
    cases h
  | mySql | native | sybase | teradata => cases ht; cases h
  | oracle =>
    obtain ⟨override, rfl⟩ := Oracle.exists_of_target ht
    simp only [Oracle.targetOf, Oracle.aggregateForm] at h
    split at h
    · exact opens_of_some (opens_listagg c) h
    · cases h
  | postgreSql =>
    cases ht
    simp only [PostgreSql.target, PostgreSql.aggregateForm] at h
    split at h
    · exact opens_of_some (by simp [Opens]) h
    · exact opens_of_some (by simp [Opens]) h
    · cases h
  | db2 | redshift =>
    cases ht
    simp only [Db2.target, Db2.aggregateForm, Redshift.target, Redshift.aggregateForm] at h
    split at h
    · exact opens_of_some (opens_listagg c) h
    · cases h
  | athena | hive | impala | sqlServer =>
    cases ht
    simp only [Athena.target, Athena.aggregateForm, Hive.target, Hive.aggregateForm, Impala.target,
      Impala.aggregateForm, SqlServer.target, SqlServer.aggregateForm] at h
    split at h
    · exact opens_of_some (by simp [Opens]) h
    · cases h

/-! ## targets -/

/-- Whether a dialect writes truth values as numbers. -/
def numbersTruth : Dialect → Bool
  | db2 | mySql | oracle | sqlServer | sybase | teradata => true
  | athena | generic | hive | impala | native | postgreSql | redshift => false

end Dialect

namespace Target

/-- A target that spells out what is not a number: calls have a parenthesis, and the literals of
days, points in time and intervals a quote.  Truth values may be numbers. -/
structure SpellsOut (t : Target) (numbersTruth : Bool) : Prop where
  scalarText : ∀ f args, isIntegerLiteral (t.scalarText f args) = false
  aggregateText : ∀ c, Opens (t.aggregateText c)
  boolLiteral : ∀ b, isIntegerLiteral (t.boolLiteral b) = numbersTruth
  dateLiteral : ∀ d, '\'' ∈ (t.dateLiteral d).toList
  timestampLiteral : ∀ s, '\'' ∈ (t.timestampLiteral s).toList
  intervalLiteral : ∀ value kind, '\'' ∈ (t.intervalLiteral value kind).toList

theorem quote_mem_standardInterval (value : String) (kind : IntervalKind) :
    '\'' ∈ (standardInterval value kind).toList := by
  have hliteral : '\'' ∈ (Text.stringLiteral value).toList := by
    simp [Text.stringLiteral, Text.enclose]
  unfold standardInterval
  cases kind <;> simp [hliteral]

/-- A call that is written as a word has the generic one. -/
theorem Templated.scalarName_of_isKeyword {t : Target} (ht : t.Templated) {f : ScalarFunction}
    (hf : f.isKeyword = true) :
    t.profile.scalarName f ∈ ["CURRENT_DATE", "CURRENT_TIMESTAMP"] := by
  unfold Profile.scalarName Profile.scalarAlias?
  cases hlookup : t.profile.scalarAliases.lookup f with
  | none => cases f <;> first | decide | contradiction
  | some name =>
    have hentry := (Bool.and_eq_true_iff.1 (of_lookup_eq_some ht.scalarAliases hlookup)).2
    rw [hf] at hentry
    contradiction

theorem Templated.isIntegerLiteral_plainScalar {t : Target} (ht : t.Templated)
    (f : ScalarFunction) (args : List String) :
    isIntegerLiteral (t.plainScalar f args) = false := by
  unfold Target.plainScalar
  split
  · exact opens_operatorChain.isIntegerLiteral
  · split
    · exact opens_negate.isIntegerLiteral
    · split
      next hkeyword =>
        have hwords : ∀ word ∈ ["CURRENT_DATE", "CURRENT_TIMESTAMP"],
            isIntegerLiteral word = false := by decide
        exact hwords _ (ht.scalarName_of_isKeyword hkeyword)
      next => exact opens_call.isIntegerLiteral

theorem opens_plainAggregate (t : Target) (c : AggregateText) : Opens (t.plainAggregate c) := by
  unfold plainAggregate
  split
  · decide
  · split
    · exact opens_separatorClause c
    · simp [Opens]

end Target

namespace Dialect

theorem spelled_literals {d : Dialect} {p : Properties} {t : Target} (ht : d.target p = .ok t) :
    (∀ b, isIntegerLiteral (t.boolLiteral b) = d.numbersTruth) ∧
      (∀ day, '\'' ∈ (t.dateLiteral day).toList) ∧
      (∀ moment, '\'' ∈ (t.timestampLiteral moment).toList) ∧
      ∀ value kind, '\'' ∈ (t.intervalLiteral value kind).toList := by
  have hword : ∀ b : Bool, isIntegerLiteral (if b then "TRUE" else "FALSE") = false := by decide
  have hnumber : ∀ b, isIntegerLiteral (Target.numericBool b) = true := by decide
  have hday : ∀ day : Date, '\'' ∈ ("DATE '" ++ day.text ++ "'").toList := by simp
  have hmoment : ∀ moment : Timestamp,
      '\'' ∈ ("TIMESTAMP '" ++ moment.millisecondText ++ "'").toList := by simp
  have hcast : ∀ text type, '\'' ∈ (Calls.cast ("'" ++ text ++ "'") type).toList := by
    simp [Calls.cast]
  have hinterval := Target.quote_mem_standardInterval
  cases d with
  | generic =>
    obtain ⟨_, _, _, _, _, _, rfl⟩ := Generic.exists_of_target ht
    exact ⟨hword, hday, hmoment, hinterval⟩
  | oracle =>
    obtain ⟨override, rfl⟩ := Oracle.exists_of_target ht
    exact ⟨hnumber, hday, hmoment, hinterval⟩
  | athena | hive | impala | native | postgreSql | redshift =>
    cases ht
    exact ⟨hword, hday, hmoment, hinterval⟩
  | db2 | mySql | teradata =>
    cases ht
    exact ⟨hnumber, hday, hmoment, hinterval⟩
  | sqlServer | sybase =>
    cases ht
    exact ⟨hnumber, fun _ => hcast _ _, fun _ => hcast _ _, hinterval⟩

/-- Every built dialect spells out what is not a number. -/
theorem spellsOut {d : Dialect} {p : Properties} {t : Target} (ht : d.target p = .ok t) :
    t.SpellsOut d.numbersTruth where
  scalarText f args := by
    rw [Target.scalarText]
    cases hform : t.scalarForm f args with
    | none => exact (templated ht).isIntegerLiteral_plainScalar f args
    | some out => exact (opens_scalarForm ht hform).isIntegerLiteral
  aggregateText c := by
    rw [Target.aggregateText]
    cases hform : t.aggregateForm c with
    | none => exact t.opens_plainAggregate c
    | some out => exact opens_aggregateForm ht hform
  boolLiteral := (spelled_literals ht).1
  dateLiteral := (spelled_literals ht).2.1
  timestampLiteral := (spelled_literals ht).2.2.1
  intervalLiteral := (spelled_literals ht).2.2.2

end Dialect

/-! ## expressions -/

/-- Whether an expression is a constant that is written as an integer: a number without a fraction,
or a truth value where these are numbers. -/
def Expr.isInteger (numbersTruth : Bool) : Expr → Bool
  | literal (.exactNumeric x) => x.scale = 0
  | literal (.bool _) => numbersTruth
  | _ => false

namespace Target

variable {t : Target} {numbersTruth : Bool} {sql : String}

namespace SpellsOut

theorem isIntegerLiteral_plainLiteral (ht : t.SpellsOut numbersTruth) {l : Literal}
    (h : t.plainLiteral l = .ok sql) :
    isIntegerLiteral sql = (Expr.literal l).isInteger numbersTruth := by
  cases l with
  | null =>
    cases h
    exact isIntegerLiteral_eq_false 'N' (by simp) (by decide)
  | bool b =>
    cases h
    exact ht.boolLiteral b
  | exactNumeric x =>
    cases h
    exact x.isIntegerLiteral_text
  | double x =>
    rw [plainLiteral] at h
    split at h
    next hfinite =>
      cases h
      exact x.isIntegerLiteral_text hfinite
    next => cases h
  | date d =>
    cases h
    exact isIntegerLiteral_eq_false '\'' (ht.dateLiteral d) (by decide)
  | timestamp s =>
    cases h
    exact isIntegerLiteral_eq_false '\'' (ht.timestampLiteral s) (by decide)
  | string s =>
    cases h
    exact isIntegerLiteral_eq_false '\'' (by simp [Text.stringLiteral, Text.enclose]) (by decide)
  | interval value kind =>
    cases h
    exact isIntegerLiteral_eq_false '\'' (ht.intervalLiteral value kind) (by decide)

/-- A junction of one operand is written as that operand; any other has a parenthesis. -/
theorem isIntegerLiteral_junction {e : Expr} (es : List Expr) (he : e = .and es ∨ e = .or es)
    (ih : ∀ c ∈ es, ∀ {sql}, t.render .nested c = .ok sql →
      isIntegerLiteral sql = c.unwrapped.isInteger numbersTruth)
    (h : t.render .nested e = .ok sql) :
    isIntegerLiteral sql = e.unwrapped.isInteger numbersTruth := by
  obtain ⟨keyword, empty, parts, hparts, hjunction⟩ : ∃ keyword empty parts,
      t.renderAll es = .ok parts ∧ junction keyword empty parts = .ok sql := by
    obtain rfl | rfl := he
    · obtain ⟨parts, hparts, hsql⟩ := render_and.1 h
      exact ⟨_, _, parts, hparts, hsql⟩
    · obtain ⟨parts, hparts, hsql⟩ := render_or.1 h
      exact ⟨_, _, parts, hparts, hsql⟩
  have hlength := (renderAll_eq_ok.1 hparts).length_eq
  obtain rfl | ⟨hmany, rfl⟩ := junction_eq_ok.1 hjunction
  · obtain ⟨c, rfl⟩ := List.length_eq_one_iff.1 hlength
    have hc : t.render .nested c = .ok sql := by simpa using renderAll_eq_ok.1 hparts
    rw [ih c List.mem_cons_self hc]
    obtain rfl | rfl := he <;> rfl
  · have hnone : Expr.onlyOperand? es = none := Expr.onlyOperand?_eq_none (by omega)
    rw [isIntegerLiteral_eq_false '(' (by simp) (by decide)]
    obtain rfl | rfl := he <;> simp [Expr.unwrapped, hnone, Expr.isInteger]

/-- The text of an expression is an integer literal exactly where it is such a constant, possibly
in junctions of one operand. -/
theorem isIntegerLiteral_render (ht : t.SpellsOut numbersTruth) {e : Expr}
    (h : t.render .nested e = .ok sql) :
    isIntegerLiteral sql = e.unwrapped.isInteger numbersTruth := by
  induction e generalizing sql with
  | column c =>
    cases h
    exact isIntegerLiteral_eq_false '.' (by simp [columnText, plainColumn]) (by decide)
  | literal l =>
    rw [render_literal, literalText_nested] at h
    exact ht.isIntegerLiteral_plainLiteral h
  | and es ih | or es ih => exact isIntegerLiteral_junction es (by simp) ih h
  | not e =>
    obtain ⟨inner, -, rfl⟩ := render_not.1 h
    exact isIntegerLiteral_eq_false '(' (by simp) (by decide)
  | compare op l r =>
    obtain ⟨a, b, -, -, rfl⟩ := render_compare.1 h
    exact isIntegerLiteral_eq_false ' ' (by simp) (by decide)
  | like e pattern =>
    obtain ⟨a, b, -, -, rfl⟩ := render_like.1 h
    exact isIntegerLiteral_eq_false ' ' (by simp) (by decide)
  | likeEscape e pattern escape =>
    obtain ⟨a, b, c, -, -, -, rfl⟩ := render_likeEscape.1 h
    exact isIntegerLiteral_eq_false ' ' (by simp) (by decide)
  | between e low high =>
    obtain ⟨a, b, c, -, -, -, rfl⟩ := render_between.1 h
    exact isIntegerLiteral_eq_false ' ' (by simp) (by decide)
  | inList e values =>
    obtain ⟨-, a, parts, -, -, rfl⟩ := render_inList.1 h
    exact isIntegerLiteral_eq_false ' ' (by simp) (by decide)
  | isNull e negated =>
    obtain ⟨a, -, rfl⟩ := render_isNull.1 h
    exact isIntegerLiteral_eq_false ' ' (by cases negated <;> simp) (by decide)
  | scalar f args =>
    obtain ⟨-, parts, -, rfl⟩ := render_scalar.1 h
    rw [callText_nested]
    exact ht.scalarText f parts
  | aggregate f args distinct orderBy separator =>
    obtain ⟨-, -, parts, keys, -, -, rfl⟩ := render_aggregate.1 h
    rw [callText_nested]
    exact (ht.aggregateText _).isIntegerLiteral

end SpellsOut

/-! ## keys -/

/-- The clauses of a statement join the texts of the keys, in order: a grouping key is its text, an
ordering key is made from it. -/
structure JoinsKeys (t : Target) (s : Select) (sql : String) (groups orders : List String) :
    Prop where
  groupTexts : List.Forall₂ (fun e text => t.render .nested e = .ok text) s.groupBy groups
  orderTexts : List.Forall₂ (fun k text => t.render .nested k.expr = .ok text) s.orderBy orders
  groupBy : s.groupBy ≠ [] → Text.Contains sql (" GROUP BY " ++ ", ".intercalate groups)
  orderBy : s.orderBy ≠ [] → Text.Contains sql (" ORDER BY " ++
    ", ".intercalate (List.zipWith t.keyTexts s.orderBy orders).flatten)

/-- A limit is written around the query. -/
theorem contains_complete {strategy : LimitStrategy} {count : UInt64} {offset : Option UInt64}
    {plan : LimitPlan} (h : strategy.plan count offset = .ok plan) (inner : InnerQuery) :
    Text.Contains (plan.complete inner) inner.sql := by
  have hnumbered (ps : List Piece) (hps : inner.sql ∈ Piece.contents ps) :
      Text.Contains (Piece.join ps) inner.sql := Piece.contains_join ps hps
  unfold LimitStrategy.plan at h
  split at h
  · cases h
    exact hnumbered [.part inner.sql, .fixed " LIMIT ", .part _] (by simp [Piece.contents])
  · cases h
    exact hnumbered [.part inner.sql, .fixed " LIMIT ", .part _, .fixed " OFFSET ", .part _]
      (by simp [Piece.contents])
  · cases h
    exact hnumbered [.part inner.sql, .fixed " FETCH FIRST ", .part _, .fixed " ROWS ONLY"]
      (by simp [Piece.contents])
  · cases h
    exact .refl _
  · cases h
    exact hnumbered [.fixed "SELECT ", .part limitSubselect, .fixed ".* FROM (", .part inner.sql,
      .fixed ") ", .part limitSubselect, .fixed " WHERE ROWNUM <= ", .part _]
      (by simp [Piece.contents])
  · split at h
    · cases h
      exact hnumbered [.fixed "SELECT ", .part _, .fixed " FROM (SELECT ", .part limitSubselect,
        .fixed ".*, ROWNUM ", .part rowNumColumn, .fixed " FROM (", .part inner.sql, .fixed ") ",
        .part limitSubselect, .fixed " WHERE ROWNUM <= ", .part _, .fixed ") WHERE ",
        .part rowNumColumn, .fixed " > ", .part _] (by simp [Piece.contents])
    · cases h
  · cases h
  · cases h

/-- A statement contains everything after its select list. -/
theorem contains_clauses {s : Select} (h : t.generate s = .ok sql) :
    ∃ rest, t.clauses s = .ok rest ∧ Text.Contains sql rest := by
  obtain ⟨-, inner, hinner, rfl⟩ | ⟨count, offset, plan, inner, -, hplan, hinner, rfl⟩ :=
    generate_eq_ok.1 h
  · obtain ⟨items, rest, -, hrest, rfl⟩ := innerQuery_eq_ok.1 hinner
    exact ⟨rest, hrest, Text.contains_append_right⟩
  · obtain ⟨items, rest, -, hrest, rfl⟩ := innerQuery_eq_ok.1 hinner
    exact ⟨rest, hrest, (contains_complete hplan _).trans Text.contains_append_right⟩

/-- The texts that ordering keys are made from. -/
theorem exists_orders {ks : List (OrderKey Expr)} {texts : List String}
    (h : t.renderKeys ks = .ok texts) :
    ∃ orders, List.Forall₂ (fun k text => t.render .nested k.expr = .ok text) ks orders ∧
      (List.zipWith t.keyTexts ks orders).flatten = texts := by
  obtain ⟨parts, hparts, rfl⟩ := renderKeys_eq_ok.1 h
  clear h
  induction hparts with
  | nil => exact ⟨[], .nil, rfl⟩
  | @cons k part ks parts hk _ ih =>
    obtain ⟨text, htext, rfl⟩ := hk
    obtain ⟨orders, horders, hflat⟩ := ih
    refine ⟨text :: orders, .cons htext horders, ?_⟩
    rw [List.zipWith_cons_cons, List.flatten_cons, List.flatten_cons, hflat]

/-- Every query that is written joins the texts of its keys. -/
theorem exists_joinsKeys {s : Select} (h : t.generate s = .ok sql) :
    ∃ groups orders, t.JoinsKeys s sql groups orders := by
  obtain ⟨rest, hrest, hsql⟩ := contains_clauses h
  obtain ⟨filter, groupBy, having, orderBy, -, hgroup, -, horder, rfl⟩ := clauses_eq_ok.1 hrest
  have hgroups : ∃ groups, t.renderAll s.groupBy = .ok groups ∧
      (s.groupBy ≠ [] → " GROUP BY " ++ ", ".intercalate groups = groupBy) := by
    obtain ⟨hnone, -⟩ | ⟨parts, -, hparts, htext⟩ := groupByText_eq_ok.1 hgroup
    · exact ⟨[], by rw [hnone, renderAll], fun hsome => absurd hnone hsome⟩
    · exact ⟨parts, hparts, fun _ => htext⟩
  have horders : ∃ texts, t.renderKeys s.orderBy = .ok texts ∧
      (s.orderBy ≠ [] → " ORDER BY " ++ ", ".intercalate texts = orderBy) := by
    obtain ⟨hnone, -⟩ | ⟨parts, -, hparts, htext⟩ := orderByText_eq_ok.1 horder
    · exact ⟨[], by rw [hnone, renderKeys], fun hsome => absurd hnone hsome⟩
    · exact ⟨parts, hparts, fun _ => htext⟩
  obtain ⟨groups, hgroups, hgroupText⟩ := hgroups
  obtain ⟨texts, htexts, horderText⟩ := horders
  obtain ⟨orders, horders, rfl⟩ := exists_orders htexts
  refine ⟨groups, orders, renderAll_eq_ok.1 hgroups, horders, fun hsome => ?_, fun hsome => ?_⟩
  · rw [hgroupText hsome]
    have hfront : Text.Contains (" FROM " ++ t.tableText s.source ++ filter ++ groupBy) groupBy :=
      Text.contains_append_right
    exact ((hsql.trans Text.contains_append_left).trans Text.contains_append_left).trans hfront
  · rw [horderText hsome]
    exact hsql.trans Text.contains_append_right

end Target

namespace Dialect

/-- **Which keys are positions**: in every query that a built dialect writes, the grouping and
ordering clauses join the texts of the keys, and such a text is a bare integer literal exactly for a
decimal without fraction digits and, in the dialects that write truth values as numbers, for a truth
value, each possibly in junctions of one operand. -/
theorem isIntegerLiteral_key {d : Dialect} {p : Properties} {t : Target} {s : Select}
    {sql : String} (ht : d.target p = .ok t) (h : t.generate s = .ok sql) :
    ∃ groups orders, t.JoinsKeys s sql groups orders ∧
      ∀ key ∈ s.groupBy.zip groups ++ (s.orderBy.map (·.expr)).zip orders,
        t.render .nested key.1 = .ok key.2 ∧
          isIntegerLiteral key.2 = key.1.unwrapped.isInteger d.numbersTruth := by
  obtain ⟨groups, orders, hjoins⟩ := Target.exists_joinsKeys h
  have horders : List.Forall₂ (fun e text => t.render .nested e = .ok text)
      (s.orderBy.map (·.expr)) orders := List.forall₂_map_left_iff.2 hjoins.orderTexts
  refine ⟨groups, orders, hjoins, fun key hkey => ?_⟩
  have htext : t.render .nested key.1 = .ok key.2 := by
    obtain hkey | hkey := List.mem_append.1 hkey
    · exact (List.forall₂_iff_zip.1 hjoins.groupTexts).2 hkey
    · exact (List.forall₂_iff_zip.1 horders).2 hkey
  exact ⟨htext, (spellsOut ht).isIntegerLiteral_render htext⟩

/-- A truth value in a junction, as an ordering key where truth values are numbers. -/
theorem isIntegerLiteral_key_truth :
    Teradata.target.generate
        { source := { name := "T" }, orderBy := [⟨.or [.literal (.bool true)], true, false⟩] } =
        .ok "SELECT * FROM T ORDER BY 1 ASC" ∧
      ∃ text, Teradata.target.render .nested (.or [.literal (.bool true)]) = .ok text ∧
        isIntegerLiteral text = true := by
  have hsql : Teradata.target.generate
      { source := { name := "T" }, orderBy := [⟨.or [.literal (.bool true)], true, false⟩] } =
      .ok "SELECT * FROM T ORDER BY 1 ASC" := by
    decide +kernel
  obtain ⟨groups, orders, hjoins, hkeys⟩ :=
    isIntegerLiteral_key (d := .teradata) (p := {}) rfl hsql
  obtain ⟨text, orders, -, -, rfl⟩ := List.forall₂_cons_left_iff.1 hjoins.orderTexts
  exact ⟨hsql, text, hkeys (_, text) (by simp)⟩

/-- A constant among the grouping keys is read as a position. -/
theorem exists_isIntegerLiteral_key :
    PostgreSql.target.generate
        { selectList := .exprs [.countRows], source := { name := "t" }, groupBy := [.int 1] } =
        .ok "SELECT COUNT(*) FROM t GROUP BY 1" ∧
      PostgreSql.target.render .nested (.int 1) = .ok "1" ∧
      ¬∀ (d : Dialect) (p : Properties) (t : Target) (s : Select) (sql : String) (e : Expr)
        (text : String), d.target p = .ok t → t.generate s = .ok sql →
          (e ∈ s.groupBy ∨ e ∈ s.orderBy.map (·.expr)) → t.render .nested e = .ok text →
          isIntegerLiteral text = false := by
  have hsql : PostgreSql.target.generate
      { selectList := .exprs [.countRows], source := { name := "t" }, groupBy := [.int 1] } =
      .ok "SELECT COUNT(*) FROM t GROUP BY 1" := by
    decide +kernel
  have htext : PostgreSql.target.render .nested (.int 1) = .ok "1" := by decide +kernel
  refine ⟨hsql, htext, fun h => ?_⟩
  have hkey := h .postgreSql {} PostgreSql.target _ _ (.int 1) "1" rfl hsql (.inl (by simp)) htext
  exact absurd hkey (by decide)

end Dialect

end RemoteQuery
