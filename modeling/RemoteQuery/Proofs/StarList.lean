import RemoteQuery.Proofs.Faults
import RemoteQuery.Proofs.RowWindow

/-!
# RemoteQuery.Proofs.StarList

A star stands for the declared columns of the table.

Three decisions have to agree: whether a star is kept, how it is written out, and how
a listed column is written.  The first asks whether a target wraps a column, the
others write the wrap; that a wrap always shows makes the first one exact.

* `Dialect.wrapsOrLeaves_transportForm` — what a built dialect makes of a column is
  longer than the column, or a literal in its place;
* `Target.selectItems_eq_star_iff` — when a star is kept;
* `Target.generate_eq_limitPlan`, `Target.generate_of_selectItems` — the text around
  a select list, for every way of limiting rows;
* `Dialect.star_means_columns` — a query of all columns and the query that lists them.
-/

namespace RemoteQuery

/-- Renaming faults and changing results do not interfere. -/
theorem mapError_map {ε ε' α β : Type} (x : Except ε α) (f : α → β) (g : ε → ε') :
    (x.map f).mapError g = (x.mapError g).map f := by
  cases x <;> rfl

/-! ## wraps that show -/

/-- A wrap is longer than what it wraps, or a string literal in its place. -/
def IsWrapOf (sql wrapped : String) : Prop :=
  sql.length + 2 ≤ wrapped.length ∨ ∃ text, wrapped = Text.stringLiteral text

/-- A column is left as it is or wrapped. -/
def WrapsOrLeaves (sql : String) (form : Option String) : Prop :=
  ∀ wrapped ∈ form, IsWrapOf sql wrapped

section

variable (sql : String)

@[simp] theorem wrapsOrLeaves_none : WrapsOrLeaves sql none := by
  simp [WrapsOrLeaves]

@[simp] theorem wrapsOrLeaves_some {wrapped : String} :
    WrapsOrLeaves sql (some wrapped) ↔ IsWrapOf sql wrapped := by
  simp [WrapsOrLeaves]

theorem isWrapOf_followed {back : String} (h : 2 ≤ back.length) : IsWrapOf sql (sql ++ back) := by
  left
  rw [String.length_append]
  omega

theorem isWrapOf_enclosed {front back : String} (h : 2 ≤ back.length) :
    IsWrapOf sql (front ++ sql ++ back) := by
  left
  rw [String.length_append, String.length_append]
  omega

@[simp] theorem isWrapOf_call (name : String) : IsWrapOf sql (Calls.call name [sql]) := by
  have hopen : "(".length = 1 := by decide
  have hclose : ")".length = 1 := by decide
  left
  simp only [Calls.call, String.intercalate_singleton, String.length_append, hopen, hclose]
  omega

@[simp] theorem isWrapOf_cast (type : String) : IsWrapOf sql (Calls.cast sql type) := by
  have hopen : "CAST(".length = 5 := by decide
  left
  simp only [Calls.cast, String.length_append, hopen]
  omega

@[simp] theorem isWrapOf_literal (text : String) : IsWrapOf sql (Text.stringLiteral text) :=
  .inr ⟨text, rfl⟩

end

namespace Dialect

variable (c : ColumnMetadata) (sql : String)

theorem Db2.wrapsOrLeaves_transportForm :
    WrapsOrLeaves sql (Db2.transportForm c sql) := by
  have hxml : IsWrapOf sql ("XMLSERIALIZE(CONTENT " ++ sql ++ " AS CLOB)") :=
    isWrapOf_enclosed sql (by decide)
  simp [Db2.transportForm, apply_ite (WrapsOrLeaves sql), hxml]

theorem SqlServer.wrapsOrLeaves_transportForm :
    WrapsOrLeaves sql (SqlServer.transportForm c sql) := by
  have hmethod : IsWrapOf sql (sql ++ ".STAsText()") :=
    isWrapOf_followed sql (by decide)
  simp [SqlServer.transportForm, apply_ite (WrapsOrLeaves sql), hmethod]

theorem Sybase.wrapsOrLeaves_transportForm :
    WrapsOrLeaves sql (Sybase.transportForm c sql) := by
  rw [Sybase.transportForm]
  cases Sybase.untransportable? c.typeName <;> simp

theorem Teradata.wrapsOrLeaves_transportForm :
    WrapsOrLeaves sql (Teradata.transportForm c sql) := by
  have hmethod : IsWrapOf sql (sql ++ ".ST_AsText()") :=
    isWrapOf_followed sql (by decide)
  rw [Teradata.transportForm]
  cases Teradata.textSize? c.typeName <;> simp [apply_ite (WrapsOrLeaves sql), hmethod]

theorem Oracle.wrapsOrLeaves_transportForm (override : Option DecimalOverride) :
    WrapsOrLeaves sql (Oracle.transportForm override c sql) := by
  have hnumber : WrapsOrLeaves sql (Oracle.transportNumber override c.dataType sql) := by
    unfold Oracle.transportNumber
    split <;> simp [apply_ite (WrapsOrLeaves sql)]
  simp [Oracle.transportForm, apply_ite (WrapsOrLeaves sql), hnumber]

/-- Every wrap of a built dialect shows. -/
theorem wrapsOrLeaves_transportForm {d : Dialect} {p : Properties} {t : Target}
    (ht : d.target p = .ok t) : WrapsOrLeaves sql (t.transportForm c sql) := by
  cases d with
  | generic =>
    obtain ⟨_, _, _, _, _, _, rfl⟩ := Generic.exists_of_target ht
    exact wrapsOrLeaves_none sql
  | oracle =>
    obtain ⟨override, rfl⟩ := Oracle.exists_of_target ht
    exact Oracle.wrapsOrLeaves_transportForm c sql override
  | db2 => cases ht; exact Db2.wrapsOrLeaves_transportForm c sql
  | sqlServer => cases ht; exact SqlServer.wrapsOrLeaves_transportForm c sql
  | sybase => cases ht; exact Sybase.wrapsOrLeaves_transportForm c sql
  | teradata => cases ht; exact Teradata.wrapsOrLeaves_transportForm c sql
  | athena | hive | impala | mySql | native | postgreSql | redshift =>
    cases ht
    simp [apply_ite (WrapsOrLeaves sql), Athena.target, Athena.transportForm, Hive.target,
      Hive.transportForm, Impala.target, MySql.target, MySql.transportForm, Native.target,
      PostgreSql.target, PostgreSql.transportForm, Redshift.target, Redshift.transportForm]

end Dialect

/-! ## names that are no literals -/

/-- A written identifier begins with a letter or with the opening quote. -/
theorem Profile.identifierText_eq_cons (d : Profile) (s : String) :
    ∃ c cs, (d.identifierText s).toList = c :: cs ∧ c ≠ '\'' ∧ c ≠ '(' := by
  rw [identifierText]
  split
  next hbare =>
    obtain ⟨hsimple, -⟩ := Bool.and_eq_true_iff.1 hbare
    have hchars := CaseHandling.alphanum_of_isSimple hsimple
    cases htext : s.toList with
    | nil => rw [CaseHandling.isSimple, htext] at hsimple; cases hsimple
    | cons c cs =>
      have hc := hchars c (by rw [htext]; exact List.mem_cons_self)
      refine ⟨c, cs, rfl, ?_, ?_⟩ <;> rintro rfl <;> revert hc <;> decide
  next =>
    rw [quote, QuoteStyle.quote, Text.enclose, String.toList_ofList]
    refine ⟨_, _, rfl, ?_⟩
    cases d.quoteStyle <;> decide

namespace Target

variable {t : Target} {c : ColumnRef}

theorem plainColumn_eq_cons (t : Target) (c : ColumnRef) :
    ∃ x xs, (t.plainColumn c).toList = x :: xs ∧ x ≠ '\'' ∧ x ≠ '(' ∧ '.' ∈ xs := by
  obtain ⟨x, xs, hx, hquote, hparen⟩ := t.profile.identifierText_eq_cons c.qualifier
  refine ⟨x, xs ++ '.' :: (t.profile.identifierText c.metadata.name).toList, ?_, hquote, hparen,
    by simp⟩
  simp [plainColumn, hx]

theorem head?_stringLiteral (text : String) :
    (Text.stringLiteral text).toList.head? = some '\'' := by
  simp [Text.stringLiteral, Text.enclose]

/-- What a wrap makes of a column is not the column. -/
theorem ne_plainColumn_of_isWrapOf {wrapped : String} (h : IsWrapOf (t.plainColumn c) wrapped) :
    wrapped ≠ t.plainColumn c := by
  rintro rfl
  obtain hlonger | ⟨text, htext⟩ := h
  · omega
  · obtain ⟨x, xs, hx, hquote, -⟩ := t.plainColumn_eq_cons c
    have hhead : (t.plainColumn c).toList.head? = some '\'' := by rw [htext, head?_stringLiteral]
    rw [hx] at hhead
    exact hquote (Option.some.inj hhead)

/-- A wrapped column is not a star. -/
theorem ne_star_of_isWrapOf {sql wrapped : String} (h : IsWrapOf sql wrapped) : wrapped ≠ "*" := by
  rintro rfl
  obtain hlonger | ⟨text, htext⟩ := h
  · have hone : "*".length = 1 := by decide
    omega
  · have hhead : "*".toList.head? = some '\'' := by rw [htext, head?_stringLiteral]
    cases hhead

theorem plainColumn_ne_star : t.plainColumn c ≠ "*" := by
  intro h
  obtain ⟨x, xs, hx, -, -, hdot⟩ := t.plainColumn_eq_cons c
  rw [h] at hx
  cases hx
  cases hdot

end Target

/-! ## the listed columns -/

/-- The query with every declared column listed in ordinal order. -/
def Select.withAllColumns (s : Select) : Select :=
  s.withColumns (s.source.allColumns.map .column)

namespace Target

variable {t : Target} {s : Select}

/-- The items of all columns of the table, with aliases on request. -/
def columnItems (t : Target) (s : Select) (aliases : Bool) : List String :=
  let items := s.source.allColumns.map fun c => t.columnText c .selectList
  if aliases then aliasItems items else items

theorem renderItems_columns (t : Target) (cs : List ColumnRef) :
    t.renderItems (cs.map .column) = .ok (cs.map fun c => t.columnText c .selectList) := by
  induction cs with
  | nil => rfl
  | cons c cs ih =>
    rw [List.map_cons, renderItems, render_column, ih]
    rfl

theorem selectItems_withAllColumns (t : Target) (hcolumns : s.source.columns ≠ [])
    (aliases : Bool) : t.selectItems s.withAllColumns aliases = .ok (t.columnItems s aliases) := by
  have hitems := t.renderItems_columns s.source.allColumns
  refine selectItems_eq_ok.2 ⟨_, ?_, rfl⟩
  cases hall : s.source.allColumns with
  | nil => simp [TableRef.allColumns, hcolumns] at hall
  | cons c cs =>
    rw [hall] at hitems
    simp only [listItems, Select.withAllColumns, Select.withColumns, hall]
    exact hitems

/-- Where a column is wrapped or items are aliased, the star is written as the columns. -/
theorem selectItems_star_expanded (hstar : s.selectList = .star)
    (hcolumns : s.source.columns ≠ []) {aliases : Bool}
    (h : aliases = true ∨ t.transportsAny s.source = true) :
    t.selectItems s aliases = .ok (t.columnItems s aliases) := by
  refine selectItems_eq_ok.2 ⟨_, ?_, rfl⟩
  simp only [listItems, hstar, Bool.or_eq_true, if_pos h, starItems]
  simp [hcolumns]

theorem selectItems_star_kept (hstar : s.selectList = .star)
    (h : t.transportsAny s.source = false) : t.selectItems s false = .ok ["*"] := by
  refine selectItems_eq_ok.2 ⟨["*"], ?_, rfl⟩
  simp [listItems, hstar, h]

theorem transportsAny_iff {table : TableRef} :
    t.transportsAny table = true ↔
      ∃ c ∈ table.allColumns, (t.transportForm c.metadata (t.plainColumn c)).isSome = true := by
  rw [transportsAny, List.any_eq_true]

/-- Where no column is wrapped, the items of all columns are their names. -/
theorem columnItems_of_not_transportsAny (hcolumns : s.source.columns ≠ [])
    (h : t.transportsAny s.source = false) :
    t.columnItems s false = s.source.allColumns.map t.plainColumn := by
  have hitems : t.starItems s.source = .ok (t.columnItems s false) := by
    rw [starItems, if_neg (by simpa using hcolumns)]
    rfl
  exact starItems_of_not_transportsAny h hitems

/-! ### wrapped columns -/

section

variable {p : Properties} {d : Dialect} (ht : d.target p = .ok t)

include ht

/-- A column of the select list differs from the nested one exactly when it is wrapped. -/
theorem columnText_eq_iff (c : ColumnRef) :
    t.columnText c .selectList = t.columnText c .nested ↔
      t.transportForm c.metadata (t.plainColumn c) = none := by
  have hwraps := Dialect.wrapsOrLeaves_transportForm c.metadata (t.plainColumn c) ht
  rw [columnText, columnText]
  cases hform : t.transportForm c.metadata (t.plainColumn c) with
  | none => simp
  | some wrapped => simp [ne_plainColumn_of_isWrapOf (hwraps wrapped hform)]

theorem columnText_ne_star (c : ColumnRef) : t.columnText c .selectList ≠ "*" := by
  have hwraps := Dialect.wrapsOrLeaves_transportForm c.metadata (t.plainColumn c) ht
  rw [columnText]
  cases hform : t.transportForm c.metadata (t.plainColumn c) with
  | none => exact plainColumn_ne_star
  | some wrapped => exact ne_star_of_isWrapOf (hwraps wrapped hform)

/-- No column is written as a star, with an alias or without. -/
theorem star_notMem_columnItems (s : Select) (aliases : Bool) : "*" ∉ t.columnItems s aliases := by
  cases aliases with
  | false =>
    intro h
    obtain ⟨c, -, hc⟩ := List.mem_map.1 h
    exact columnText_ne_star ht c hc
  | true =>
    intro h
    obtain ⟨⟨sql, i⟩, -, hitem⟩ := List.mem_map.1 h
    have hblank : ' ' ∈ "*".toList := by
      rw [← hitem]
      simp
    revert hblank
    decide

/-- A star is kept exactly where no alias is asked for and every column of the list is written as a
nested one. -/
theorem selectItems_eq_star_iff (hstar : s.selectList = .star) (hcolumns : s.source.columns ≠ [])
    (aliases : Bool) :
    t.selectItems s aliases = .ok ["*"] ↔ aliases = false ∧ ∀ c ∈ s.source.allColumns,
      t.render .selectList (.column c) = t.render .nested (.column c) := by
  simp only [render_column, Except.ok.injEq, columnText_eq_iff ht]
  by_cases hexpand : aliases = true ∨ t.transportsAny s.source = true
  · have hlist : t.columnItems s aliases ≠ ["*"] := by
      intro h
      exact star_notMem_columnItems ht s aliases (h ▸ List.mem_singleton_self "*")
    rw [selectItems_star_expanded hstar hcolumns hexpand, Except.ok.injEq]
    refine iff_of_false hlist ?_
    rintro ⟨haliases, hplain⟩
    obtain h | h := hexpand
    · rw [haliases] at h
      cases h
    · obtain ⟨c, hc, hsome⟩ := transportsAny_iff.1 h
      rw [hplain c hc] at hsome
      cases hsome
  · simp only [not_or, Bool.not_eq_true] at hexpand
    obtain ⟨rfl, hwrap⟩ := hexpand
    refine iff_of_true (selectItems_star_kept hstar hwrap) ⟨rfl, fun c hc => ?_⟩
    exact Option.not_isSome_iff_eq_none.1 (List.any_eq_false.1 hwrap c hc)

end

/-! ## the plan of a query -/

/-- The plan for the rows of a query; without a limit it leaves the inner query as it is. -/
def limitPlan (t : Target) (s : Select) : Except QueryError LimitPlan :=
  match s.limit with
  | none => .ok ⟨{}, InnerQuery.sql⟩
  | some ⟨none, _⟩ => .error .offsetWithoutCount
  | some ⟨some count, offset⟩ => (t.profile.limitStrategy.plan count offset).mapError .limit

/-- A query is planned first, then its inner query is written, then completed. -/
theorem generate_eq_limitPlan (t : Target) (s : Select) :
    t.generate s = (t.limitPlan s).bind fun plan =>
      (t.innerQuery s plan.request).map plan.complete := by
  rw [generate.eq_def, limitPlan.eq_def]
  cases s.limit with
  | none => rfl
  | some limit =>
    obtain ⟨count, offset⟩ := limit
    cases count with
    | none => rfl
    | some count => rfl

/-- Row limiting asks for aliases where rows are numbered and some of them skipped. -/
def AsksForAliases (t : Target) (s : Select) : Prop :=
  t.profile.limitStrategy = .rowNum ∧ ∃ count offset, s.limit = some ⟨some count, some offset⟩

theorem positionalAliases_iff_asksForAliases {plan : LimitPlan} (h : t.limitPlan s = .ok plan) :
    plan.request.positionalAliases = true ↔ t.AsksForAliases s := by
  unfold limitPlan at h
  unfold AsksForAliases
  split at h
  next hlimit =>
    cases h
    simp [hlimit]
  next => cases h
  next count offset hlimit =>
    rw [positionalAliases_of_plan (mapError_eq_ok.1 h), hlimit]
    cases offset <;> simp

/-- The text of a query whose items have no aliases, by its select list and what follows it. -/
def textAround (strategy : LimitStrategy) (limit : Option RowLimit) (list clauses : String) :
    String :=
  match strategy, limit with
  | .trailing, some ⟨some n, none⟩ =>
    "SELECT " ++ list ++ clauses ++ " LIMIT " ++ toString n.toNat
  | .trailing, some ⟨some n, some m⟩ =>
    "SELECT " ++ list ++ clauses ++ " LIMIT " ++ toString n.toNat ++ " OFFSET " ++ toString m.toNat
  | .fetchFirst, some ⟨some n, _⟩ =>
    "SELECT " ++ list ++ clauses ++ " FETCH FIRST " ++ toString n.toNat ++ " ROWS ONLY"
  | .top, some ⟨some n, _⟩ => "SELECT " ++ ("TOP " ++ toString n.toNat ++ " ") ++ list ++ clauses
  | .rowNum, some ⟨some n, _⟩ => RowNumber.upToText ("SELECT " ++ list ++ clauses) n.toNat
  | _, _ => "SELECT " ++ list ++ clauses

/-- A plan that asks for no aliases completes the inner query to this text. -/
theorem complete_eq_textAround {plan : LimitPlan} (h : t.limitPlan s = .ok plan)
    (hplain : plan.request.positionalAliases = false) (list clauses : String) (k : Nat) :
    plan.complete ⟨"SELECT " ++ topText plan.request ++ list ++ clauses, k⟩ =
      textAround t.profile.limitStrategy s.limit list clauses := by
  have htop : "SELECT " ++ topText {} = "SELECT " := String.append_empty
  unfold limitPlan at h
  split at h
  next hlimit =>
    cases h
    rw [hlimit, htop]
    cases t.profile.limitStrategy <;> rfl
  next => cases h
  next count offset hlimit =>
    rw [hlimit]
    have hplan := mapError_eq_ok.1 h
    generalize t.profile.limitStrategy = strategy at hplan ⊢
    match strategy, offset, hplan with
    | .trailing, none, hplan | .trailing, some _, hplan | .fetchFirst, none, hplan =>
      cases hplan
      rw [htop]
      rfl
    | .top, none, hplan => cases hplan; rfl
    | .rowNum, none, hplan =>
      cases hplan
      rw [rowNumFirst_complete]
      exact congrArg (fun front => RowNumber.upToText (front ++ list ++ clauses) _) htop
    | .rowNum, some m, hplan =>
      have haliases := (positionalAliases_of_plan hplan).2 ⟨rfl, rfl⟩
      rw [hplain] at haliases
      cases haliases

/-! ## queries that differ in their lists -/

theorem innerQuery_of_selectItems {request : InnerRequest} {items : List String}
    (h : t.selectItems s request.positionalAliases = .ok items) :
    t.innerQuery s request = (t.clauses s).map fun rest =>
      ⟨"SELECT " ++ topText request ++ ", ".intercalate items ++ rest, items.length⟩ := by
  rw [innerQuery, h]
  cases t.clauses s <;> rfl

/-- What follows the select list, once the limit is known to have a text. -/
def checkedClauses (t : Target) (s : Select) : Except QueryError String :=
  (t.limitPlan s).bind fun _ => t.clauses s

theorem clauses_of_checkedClauses {clauses : String} (h : t.checkedClauses s = .ok clauses) :
    t.clauses s = .ok clauses := by
  rw [checkedClauses] at h
  cases hplan : t.limitPlan s with
  | error fault => rw [hplan] at h; cases h
  | ok plan => rw [hplan] at h; exact h

/-- A query whose items have no aliases is its list with the same text around it. -/
theorem generate_of_selectItems {items : List String} (hplain : ¬t.AsksForAliases s)
    (hitems : t.selectItems s false = .ok items) :
    t.generate s = (t.checkedClauses s).map
      (textAround t.profile.limitStrategy s.limit (", ".intercalate items)) := by
  rw [generate_eq_limitPlan, checkedClauses]
  cases hplan : t.limitPlan s with
  | error fault => rfl
  | ok plan =>
    have haliases : plan.request.positionalAliases = false := by
      rw [← positionalAliases_iff_asksForAliases hplan] at hplain
      exact Bool.eq_false_iff.2 hplain
    have hinner := innerQuery_of_selectItems (by rw [haliases, hitems])
    simp only [Except.bind, hinner]
    cases t.clauses s with
    | error fault => rfl
    | ok rest => exact congrArg Except.ok (complete_eq_textAround hplan haliases _ rest _)

/-- Two queries with one plan have one outcome, if the limit makes no request under which their
select lists differ. -/
theorem generate_congr {s' : Select} (hplan : t.limitPlan s' = t.limitPlan s)
    (hclauses : t.clauses s' = t.clauses s)
    (hitems : ∀ aliases, (t.AsksForAliases s → aliases = true) →
      t.selectItems s' aliases = t.selectItems s aliases) :
    t.generate s' = t.generate s := by
  rw [generate_eq_limitPlan, generate_eq_limitPlan, hplan]
  cases h : t.limitPlan s with
  | error fault => simp only [Except.bind]
  | ok plan =>
    have hlist := hitems _ (positionalAliases_iff_asksForAliases h).2
    have hinner : t.innerQuery s' plan.request = t.innerQuery s plan.request := by
      rw [innerQuery, innerQuery, hlist, hclauses]
    simp only [Except.bind, hinner]

/-! ## stars and columns -/

/-- A star that is not kept makes no difference to the listed columns. -/
theorem generate_star_expanded (hstar : s.selectList = .star) (hcolumns : s.source.columns ≠ [])
    (h : t.transportsAny s.source = true ∨ t.AsksForAliases s) :
    t.generate s = t.generate s.withAllColumns := by
  have hplan : t.limitPlan s.withAllColumns = t.limitPlan s := rfl
  have hclauses : t.clauses s.withAllColumns = t.clauses s := rfl
  have hlists : ∀ aliases, (t.AsksForAliases s → aliases = true) →
      t.selectItems s.withAllColumns aliases = t.selectItems s aliases := by
    intro aliases hasks
    rw [selectItems_star_expanded hstar hcolumns (h.symm.imp_left hasks),
      t.selectItems_withAllColumns hcolumns]
  exact (generate_congr hplan hclauses hlists).symm

/-- A star that is kept stands where the columns are listed otherwise. -/
theorem generate_star_kept (hstar : s.selectList = .star) (hwrap : t.transportsAny s.source = false)
    (hplain : ¬t.AsksForAliases s) :
    t.generate s =
      (t.checkedClauses s).map (textAround t.profile.limitStrategy s.limit "*") := by
  have htext := generate_of_selectItems hplain (selectItems_star_kept hstar hwrap)
  rw [String.intercalate_singleton] at htext
  exact htext

theorem generate_withAllColumns (hcolumns : s.source.columns ≠ [])
    (hwrap : t.transportsAny s.source = false) (hplain : ¬t.AsksForAliases s) :
    t.generate s.withAllColumns = (t.checkedClauses s).map
      (textAround t.profile.limitStrategy s.limit
        (", ".intercalate (s.source.allColumns.map t.plainColumn))) := by
  have hlisted : ¬t.AsksForAliases s.withAllColumns := hplain
  have htext := generate_of_selectItems hlisted (t.selectItems_withAllColumns hcolumns false)
  rw [columnItems_of_not_transportsAny hcolumns hwrap] at htext
  exact htext

end Target

namespace Dialect

/-- A built dialect has the outcome of its target. -/
theorem generate_of_target {d : Dialect} {p : Properties} {t : Target} (ht : d.target p = .ok t)
    (s : Select) : d.generate p s = (t.generate s).mapError .query := by
  rw [generate, ht]
  rfl

/-- **A star means the declared columns**: in every built dialect a query of all columns has the
same outcome as the query that lists them in ordinal order, if a column is wrapped for transport or
row limiting asks for aliases.  Otherwise both fail for the same reason, or their texts are the same
around the list, which is the star in one and the plain name of every column in the other.  So the
star is kept exactly when every column of the list is written as a nested one and no aliases are
asked for. -/
theorem star_means_columns {d : Dialect} {p : Properties} {t : Target} {s : Select}
    (ht : d.target p = .ok t) (hstar : s.selectList = .star) (hcolumns : s.source.columns ≠ []) :
    let wrapped := ∃ c ∈ s.source.allColumns,
      (t.transportForm c.metadata (t.plainColumn c)).isSome = true
    let names := ", ".intercalate (s.source.allColumns.map t.plainColumn)
    (wrapped ∨ t.AsksForAliases s → d.generate p s = d.generate p s.withAllColumns) ∧
    (¬(wrapped ∨ t.AsksForAliases s) → ∃ rest : Except Error String,
      (∀ clauses, rest = .ok clauses → t.clauses s = .ok clauses) ∧
      d.generate p s = rest.map (Target.textAround t.profile.limitStrategy s.limit "*") ∧
      d.generate p s.withAllColumns =
        rest.map (Target.textAround t.profile.limitStrategy s.limit names)) ∧
    ∀ aliases, (aliases = true ↔ t.AsksForAliases s) →
      (t.selectItems s aliases = .ok ["*"] ↔
        (∀ c ∈ s.source.allColumns,
          t.render .selectList (.column c) = t.render .nested (.column c)) ∧
        ¬t.AsksForAliases s) := by
  intro wrapped names
  refine ⟨?_, ?_, ?_⟩
  · intro h
    have hexpand := h.imp_left Target.transportsAny_iff.2
    rw [generate_of_target ht, generate_of_target ht,
      Target.generate_star_expanded hstar hcolumns hexpand]
  · intro h
    obtain ⟨hnone, hplain⟩ := not_or.1 h
    have hwrap : t.transportsAny s.source = false :=
      Bool.eq_false_iff.2 fun hany => hnone (Target.transportsAny_iff.1 hany)
    refine ⟨(t.checkedClauses s).mapError .query, ?_, ?_, ?_⟩
    · intro clauses hrest
      exact Target.clauses_of_checkedClauses (mapError_eq_ok.1 hrest)
    · rw [generate_of_target ht, Target.generate_star_kept hstar hwrap hplain, mapError_map]
    · rw [generate_of_target ht, Target.generate_withAllColumns hcolumns hwrap hplain, mapError_map]
  · intro aliases hasks
    rw [Target.selectItems_eq_star_iff ht hstar hcolumns, ← hasks, Bool.not_eq_true, and_comm]

/-- A table with a large text: its star is written out where the text is wrapped, and kept where it
is not. -/
theorem star_of_large_text :
    let s := (Select.ofTable { name := "T", columns :=
      [⟨"ID", .date, "DATE"⟩, ⟨"x", .varchar 9 .utf8, "CLOB"⟩] }).withLimit 5
    oracle.generate {} s = oracle.generate {} s.withAllColumns ∧
      oracle.generate {} s = .ok ("SELECT LIMIT_SUBSELECT.* FROM (" ++
        "SELECT T.ID, TO_CHAR(T.\"x\") FROM T" ++ ") LIMIT_SUBSELECT WHERE ROWNUM <= 5") ∧
      ∃ rest : Except Error String,
        sqlServer.generate {} s = rest.map (Target.textAround .top s.limit "*") ∧
        sqlServer.generate {} s.withAllColumns =
          rest.map (Target.textAround .top s.limit "T.ID, T.x") := by
  intro s
  have hcolumns : s.source.columns ≠ [] := List.cons_ne_nil _ _
  have horacle : oracle.target {} = .ok (Oracle.targetOf none) := rfl
  have hserver : sqlServer.target {} = .ok SqlServer.target := rfl
  have hwrapped : ∃ c ∈ s.source.allColumns, ((Oracle.targetOf none).transportForm c.metadata
      ((Oracle.targetOf none).plainColumn c)).isSome = true :=
    ⟨s.source.reference 1 ⟨"x", .varchar 9 .utf8, "CLOB"⟩, .tail _ (.head _), by decide +kernel⟩
  have hplain : SqlServer.target.transportsAny s.source = false := by decide +kernel
  have hnames : ", ".intercalate (s.source.allColumns.map SqlServer.target.plainColumn) =
      "T.ID, T.x" := by decide +kernel
  have hkept : ¬((∃ c ∈ s.source.allColumns, (SqlServer.target.transportForm c.metadata
      (SqlServer.target.plainColumn c)).isSome = true) ∨ SqlServer.target.AsksForAliases s) := by
    rw [← Target.transportsAny_iff, hplain]
    rintro (h | ⟨h, -⟩) <;> cases h
  obtain ⟨rest, -, hstar, hlisted⟩ := (star_means_columns hserver rfl hcolumns).2.1 hkept
  rw [hnames] at hlisted
  refine ⟨?_, by decide +kernel, rest, hstar, hlisted⟩
  exact (star_means_columns horacle rfl hcolumns).1 (.inl hwrapped)

end Dialect

end RemoteQuery
