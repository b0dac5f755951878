import RemoteQuery.Proofs.Built

/-!
# RemoteQuery.Proofs.RowWindow

A limited query is the same query without its limit, completed as the target
limits rows.  Where rows are numbered, the filters of the completion are given
their meaning, and they select exactly the window that was asked for.

* `RowNumber.rowsUpTo_eq`, `RowNumber.rowsBetween_eq` — what the filters on row
  numbers select;
* `Target.listItems_of_aliased` — the items that get aliases are those of the
  unlimited query, with a kept star written out;
* `Dialect.limited_of_generate` — the text of a limited query, for every way of
  limiting.
-/

namespace RemoteQuery

/-! ## row numbers -/

namespace RowNumber

variable {α : Type}

/-- The rows that pass a filter on their number, with the number.  A row is numbered when it passes;
the number of a row that fails goes to the next one. -/
def numbered (passes : Nat → Bool) : Nat → List α → List (α × Nat)
  | _, [] => []
  | n, row :: rows =>
    if passes n then (row, n) :: numbered passes (n + 1) rows else numbered passes n rows

/-- The rows of `WHERE ROWNUM <= upper`. -/
def rowsUpTo (upper : Nat) (rows : List α) : List α :=
  (numbered (· ≤ upper) 1 rows).map Prod.fst

/-- The rows of `WHERE ROWNUM <= upper` whose number passes a second filter `> lower`. -/
def rowsBetween (upper lower : Nat) (rows : List α) : List α :=
  ((numbered (· ≤ upper) 1 rows).filter fun row => lower < row.2).map Prod.fst

/-- Numbers up to a bound go to the first rows, in order. -/
theorem numbered_upTo (upper n : Nat) (rows : List α) :
    numbered (· ≤ upper) n rows = (rows.take (upper + 1 - n)).zipIdx n := by
  induction rows generalizing n with
  | nil => rw [List.take_nil]; rfl
  | cons row rows ih =>
    rw [numbered]
    by_cases h : n ≤ upper
    · have hbound : upper + 1 - n = upper + 1 - (n + 1) + 1 := by omega
      rw [if_pos (decide_eq_true h), ih, hbound, List.take_succ_cons, List.zipIdx_cons]
    · have hbound : upper + 1 - n = 0 := by omega
      rw [if_neg (by simpa using h), ih, hbound, List.take_zero, List.take_zero]

/-- Of rows numbered from `n`, those beyond a bound are the last ones. -/
theorem filter_zipIdx (lower n : Nat) (rows : List α) :
    ((rows.zipIdx n).filter fun row => lower < row.2).map Prod.fst =
      rows.drop (lower + 1 - n) := by
  induction rows generalizing n with
  | nil => rw [List.drop_nil]; rfl
  | cons row rows ih =>
    rw [List.zipIdx_cons, List.filter_cons]
    by_cases h : lower < n
    · have hbound : lower + 1 - n = 0 := by omega
      have hnext : lower + 1 - (n + 1) = 0 := by omega
      rw [if_pos (decide_eq_true h), List.map_cons, ih, hbound, hnext, List.drop_zero,
        List.drop_zero]
    · have hbound : lower + 1 - n = lower + 1 - (n + 1) + 1 := by omega
      rw [if_neg (by simpa using h), ih, hbound, List.drop_succ_cons]

/-- The first filter keeps as many rows as its bound says. -/
theorem rowsUpTo_eq (upper : Nat) (rows : List α) : rowsUpTo upper rows = rows.take upper := by
  rw [rowsUpTo, numbered_upTo, List.zipIdx_map_fst, Nat.add_sub_cancel]

/-- Both filters keep the rows of a window. -/
theorem rowsBetween_eq (count offset : Nat) (rows : List α) :
    rowsBetween (count + offset) offset rows = (rows.drop offset).take count := by
  rw [rowsBetween, numbered_upTo, filter_zipIdx, Nat.add_sub_cancel, Nat.add_sub_cancel,
    List.drop_take, Nat.add_sub_cancel]

/-- An inner query whose rows are filtered on their number. -/
def upToText (inner : String) (upper : Nat) : String :=
  "SELECT LIMIT_SUBSELECT.* FROM (" ++ inner ++ ") LIMIT_SUBSELECT WHERE ROWNUM <= " ++
    toString upper

/-- An inner query whose rows are filtered on their number twice; the second filter needs the number
as a column, so the columns of the inner query are listed. -/
def betweenText (columns : List String) (inner : String) (upper lower : Nat) : String :=
  "SELECT " ++ ", ".intercalate columns ++
    " FROM (SELECT LIMIT_SUBSELECT.*, ROWNUM ROWNUM_SUB FROM (" ++ inner ++
    ") LIMIT_SUBSELECT WHERE ROWNUM <= " ++ toString upper ++ ") WHERE ROWNUM_SUB > " ++
    toString lower

end RowNumber

/-- Different indices have different aliases. -/
theorem positionalAlias_injective {i j : Nat} (h : positionalAlias i = positionalAlias j) :
    i = j := by
  have hdigits : toString i = toString j := (String.append_right_inj "c").1 h
  have hlist : Nat.toDigits 10 i = Nat.toDigits 10 j := by
    have htext := congrArg String.toList hdigits
    simpa [Nat.toString_eq_repr, Nat.repr_eq_ofList_toDigits] using htext
  have hread : some i = some j := by
    rw [← Text.digits?_toDigits i, hlist, Text.digits?_toDigits]
  exact Option.some.inj hread

/-- The aliases of a select list of `k` items. -/
def positionalAliases (k : Nat) : List String :=
  (List.range k).map positionalAlias

theorem nodup_positionalAliases (k : Nat) : (positionalAliases k).Nodup :=
  List.pairwise_map.2 (List.nodup_range.imp fun hne h => hne (positionalAlias_injective h))

namespace Target

variable {t : Target} {s : Select}

/-! ## the limited and the unlimited query -/

/-- The items of the select list are those of an unlimited query; only a kept star is written out,
as the names of all columns. -/
def ListedAs (t : Target) (s : Select) (list items : List String) : Prop :=
  list = items ∨
    s.selectList = .star ∧ list = ["*"] ∧ items = s.source.allColumns.map t.plainColumn

/-- The text of a query limited to `count` rows after the first `offset`, and `unlimited` the text
of the query without the limit.  Where the rows are numbered twice, both texts have the same clauses
and differ in their select lists: the inner one has the items of the query, each with its alias. -/
def Limited (t : Target) (s : Select) (count : UInt64) (offset : Option UInt64)
    (unlimited sql : String) : Prop :=
  match t.profile.limitStrategy, offset with
  | .trailing, none => sql = unlimited ++ " LIMIT " ++ toString count.toNat
  | .trailing, some m =>
    sql = unlimited ++ " LIMIT " ++ toString count.toNat ++ " OFFSET " ++ toString m.toNat
  | .fetchFirst, none => sql = unlimited ++ " FETCH FIRST " ++ toString count.toNat ++ " ROWS ONLY"
  | .top, none => ∃ rest, unlimited = "SELECT " ++ rest ∧
      sql = "SELECT " ++ ("TOP " ++ toString count.toNat ++ " ") ++ rest
  | .rowNum, none => sql = RowNumber.upToText unlimited count.toNat ∧
      ∀ {α : Type} (rows : List α), RowNumber.rowsUpTo count.toNat rows = rows.take count.toNat
  | .rowNum, some m => count.toNat + m.toNat < UInt64.size ∧
      ∃ list items clauses, t.listItems s false = .ok list ∧ t.listItems s true = .ok items ∧
        t.clauses s = .ok clauses ∧ t.ListedAs s list items ∧
        unlimited = "SELECT " ++ ", ".intercalate list ++ clauses ∧
        sql = RowNumber.betweenText (positionalAliases items.length)
          ("SELECT " ++ ", ".intercalate (items.zipIdx.map fun item =>
            item.1 ++ " AS " ++ positionalAlias item.2) ++ clauses)
          (count.toNat + m.toNat) m.toNat ∧
        (positionalAliases items.length).Nodup ∧
        ∀ {α : Type} (rows : List α),
          RowNumber.rowsBetween (count.toNat + m.toNat) m.toNat rows =
            (rows.drop m.toNat).take count.toNat
  | .fetchFirst, some _ | .top, some _ => False

/-- The inner query of a limited query that asks for nothing is the unlimited query. -/
theorem generate_unlimited {inner : InnerQuery} (h : t.innerQuery s {} = .ok inner) :
    t.generate { s with limit := none } = .ok inner.sql :=
  generate_eq_ok.2 (.inl ⟨rfl, inner, h, rfl⟩)

theorem rowNumFirst_complete (count : UInt64) (inner : InnerQuery) :
    (LimitPlan.rowNumFirst count).complete inner = RowNumber.upToText inner.sql count.toNat := by
  have hfront : "SELECT " ++ limitSubselect ++ ".* FROM (" = "SELECT LIMIT_SUBSELECT.* FROM (" := by
    decide
  have hback : ") " ++ (limitSubselect ++ " WHERE ROWNUM <= ") =
      ") LIMIT_SUBSELECT WHERE ROWNUM <= " := by
    decide
  unfold LimitPlan.rowNumFirst RowNumber.upToText
  simp only [← hfront, ← hback, String.append_assoc]

theorem rowNumWindow_complete (offset upper : UInt64) (inner : InnerQuery) :
    (LimitPlan.rowNumWindow offset upper).complete inner =
      RowNumber.betweenText (positionalAliases inner.columnCount) inner.sql upper.toNat
        offset.toNat := by
  have hfront : " FROM (SELECT " ++ (limitSubselect ++ (".*, ROWNUM " ++ (rowNumColumn ++
      " FROM ("))) = " FROM (SELECT LIMIT_SUBSELECT.*, ROWNUM ROWNUM_SUB FROM (" := by
    decide
  have hback : ") " ++ (limitSubselect ++ " WHERE ROWNUM <= ") =
      ") LIMIT_SUBSELECT WHERE ROWNUM <= " := by
    decide
  have hlast : ") WHERE " ++ (rowNumColumn ++ " > ") = ") WHERE ROWNUM_SUB > " := by
    decide
  simp only [LimitPlan.rowNumWindow, RowNumber.betweenText, positionalAliases, ← hfront, ← hback,
    ← hlast, String.append_assoc]

/-- Where no column of a table is wrapped, its columns are selected by their names. -/
theorem starItems_of_not_transportsAny {table : TableRef} {items : List String}
    (hwrap : t.transportsAny table = false) (h : t.starItems table = .ok items) :
    items = table.allColumns.map t.plainColumn := by
  rw [starItems] at h
  split at h
  · cases h
  · cases h
    refine List.map_congr_left fun c hc => ?_
    have hnone := List.any_eq_false.1 hwrap c hc
    rw [columnText, Option.not_isSome_iff_eq_none.1 hnone, Option.getD_none]

/-- A select list whose items can be aliased can be written without aliases too. -/
theorem listItems_of_aliased {items : List String} (h : t.listItems s true = .ok items) :
    ∃ list, t.listItems s false = .ok list ∧ t.ListedAs s list items := by
  unfold listItems at h ⊢
  unfold ListedAs
  generalize s.selectList = list at h ⊢
  cases list with
  | anyColumn => exact ⟨items, h, .inl rfl⟩
  | exprs es =>
    cases es with
    | nil => cases h
    | cons e es => exact ⟨items, h, .inl rfl⟩
  | star =>
    dsimp only at h ⊢
    rw [Bool.true_or, if_pos rfl] at h
    cases hwrap : t.transportsAny s.source with
    | true => exact ⟨items, h, .inl rfl⟩
    | false => exact ⟨["*"], rfl, .inr ⟨rfl, rfl, starItems_of_not_transportsAny hwrap h⟩⟩

/-- The text of a limited query is that of the unlimited one, completed as the target limits rows.
-/
theorem exists_unlimited {count : UInt64} {offset : Option UInt64} {sql : String}
    (hl : s.limit = some ⟨some count, offset⟩) (h : t.generate s = .ok sql) :
    ∃ unlimited, t.generate { s with limit := none } = .ok unlimited ∧
      t.Limited s count offset unlimited sql := by
  obtain ⟨hnone, -⟩ | ⟨count', offset', plan, inner, hl', hplan, hinner, rfl⟩ := generate_eq_ok.1 h
  · rw [hl] at hnone
    cases hnone
  rw [hl] at hl'
  cases hl'
  unfold Limited
  generalize t.profile.limitStrategy = strategy at hplan ⊢
  cases strategy with
  | trailing =>
    cases offset with
    | none => cases hplan; exact ⟨_, generate_unlimited hinner, rfl⟩
    | some m => cases hplan; exact ⟨_, generate_unlimited hinner, rfl⟩
  | fetchFirst =>
    cases offset with
    | none => cases hplan; exact ⟨_, generate_unlimited hinner, rfl⟩
    | some m => cases hplan
  | top =>
    cases offset with
    | none =>
      cases hplan
      obtain ⟨items, rest, hitems, hrest, rfl⟩ := innerQuery_eq_ok.1 hinner
      have hunlimited := generate_unlimited (innerQuery_eq_ok.2 ⟨items, rest, hitems, hrest, rfl⟩)
      exact ⟨_, hunlimited, ", ".intercalate items ++ rest, String.append_assoc,
        String.append_assoc⟩
    | some m => cases hplan
  | rowNum =>
    cases offset with
    | none =>
      cases hplan
      exact ⟨_, generate_unlimited hinner, rowNumFirst_complete count inner,
        fun rows => RowNumber.rowsUpTo_eq count.toNat rows⟩
    | some m =>
      rw [LimitStrategy.plan] at hplan
      split at hplan
      next hsum =>
        cases hplan
        have hinner : t.innerQuery s { positionalAliases := true } = .ok inner := hinner
        obtain ⟨_, rest, hitems, hrest, rfl⟩ := innerQuery_eq_ok.1 hinner
        obtain ⟨items, hplain, rfl⟩ := selectItems_eq_ok.1 hitems
        obtain ⟨list, hlist, hlisted⟩ := listItems_of_aliased hplain
        have hselect : t.selectItems s false = .ok list := selectItems_eq_ok.2 ⟨list, hlist, rfl⟩
        have hunlimited := generate_unlimited (innerQuery_eq_ok.2 ⟨list, rest, hselect, hrest, rfl⟩)
        refine ⟨_, hunlimited, hsum, list, items, rest, hlist, hplain, hrest, hlisted, rfl, ?_,
          nodup_positionalAliases _, fun rows => RowNumber.rowsBetween_eq _ _ rows⟩
        simp only [rowNumWindow_complete, UInt64.toNat_add, Nat.mod_eq_of_lt hsum, if_true,
          aliasItems, List.length_map, List.length_zipIdx]
        rfl
      next => cases hplan

end Target

/-- **Row limiting selects the requested window**: in every built dialect a limited query is the
same query without the limit, completed as the dialect limits rows.  Where that is by row numbers,
the filters written around the query keep, of any rows, the `count` ones after the first `offset`,
and the columns listed around it are the pairwise distinct aliases of its select items. -/
theorem Dialect.limited_of_generate {d : Dialect} {p : Properties} {t : Target} {s : Select}
    {count : UInt64} {offset : Option UInt64} {sql : String} (ht : d.target p = .ok t)
    (hl : s.limit = some ⟨some count, offset⟩) (h : d.generate p s = .ok sql) :
    ∃ unlimited, d.generate p { s with limit := none } = .ok unlimited ∧
      t.Limited s count offset unlimited sql := by
  obtain ⟨unlimited, hunlimited, hlimited⟩ :=
    Target.exists_unlimited hl ((generate_eq_ok_iff ht).1 h)
  exact ⟨unlimited, (generate_eq_ok_iff ht).2 hunlimited, hlimited⟩

/-- Rows 6 to 15 of a table by row numbers: the kept star of the unlimited query is written out to
be aliased. -/
theorem Dialect.limited_star_window :
    ∃ unlimited, oracle.generate {} (Select.ofTable { name := "T", columns :=
        [⟨"ID", .date, "DATE"⟩, ⟨"x", .date, "DATE"⟩] }) = .ok unlimited ∧
      (Oracle.targetOf none).Limited (((Select.ofTable { name := "T", columns :=
        [⟨"ID", .date, "DATE"⟩, ⟨"x", .date, "DATE"⟩] }).withLimit 10).withOffset 5) 10 (some 5)
        unlimited ("SELECT c0, c1 FROM (SELECT LIMIT_SUBSELECT.*, ROWNUM ROWNUM_SUB FROM (" ++
          "SELECT T.ID AS c0, T.\"x\" AS c1 FROM T" ++
          ") LIMIT_SUBSELECT WHERE ROWNUM <= 15) WHERE ROWNUM_SUB > 5") := by
  have hbuilt : oracle.target {} = .ok (Oracle.targetOf none) := rfl
  have hsql : oracle.generate {} (((Select.ofTable { name := "T", columns :=
      [⟨"ID", .date, "DATE"⟩, ⟨"x", .date, "DATE"⟩] }).withLimit 10).withOffset 5) =
      .ok ("SELECT c0, c1 FROM (SELECT LIMIT_SUBSELECT.*, ROWNUM ROWNUM_SUB FROM (" ++
        "SELECT T.ID AS c0, T.\"x\" AS c1 FROM T" ++
        ") LIMIT_SUBSELECT WHERE ROWNUM <= 15) WHERE ROWNUM_SUB > 5") := by
    decide +kernel
  exact limited_of_generate hbuilt rfl hsql

end RemoteQuery
