import RemoteQuery.Capability.Needs
import RemoteQuery.Proofs.Built
import Mathlib.Data.List.Infix

/-!
# RemoteQuery.Proofs.AggregateFlavours

The flavours of aggregate calls: over distinct values, in an order, with a
separator.  A dialect declares the flavours it keeps.

* `Dialect.distinct_shows_iff` — a declared call over distinct values is written
  differently from the call over all values, except for the median of PostgreSQL;
* `Dialect.groupConcat_keeps` — a declared concatenation shows its argument, its
  separator, its order and whether it is over distinct values.
-/

namespace RemoteQuery

/-! ## texts in texts -/

namespace Text

/-- A text holds another one somewhere. -/
def Contains (text part : String) : Prop :=
  part.toList <:+: text.toList

instance (text part : String) : Decidable (Contains text part) :=
  inferInstanceAs (Decidable (part.toList <:+: text.toList))

/-- Pieces that follow each other stand together in the text of all pieces. -/
theorem contains_join {parts pieces : List String} (h : parts <:+: pieces) :
    Contains (String.join pieces) (String.join parts) := by
  obtain ⟨front, back, rfl⟩ := h
  refine ⟨(String.join front).toList, (String.join back).toList, ?_⟩
  simp [String.toList_join]

theorem contains_of_mem {piece : String} {pieces : List String} (h : piece ∈ pieces) :
    Contains (String.join pieces) piece := by
  simpa using contains_join ((List.singleton_infix_iff piece pieces).2 h)

/-- A word starts nowhere in a text, not even with what the text ends in. -/
def StartsNowhere (word text : String) : Prop :=
  ∀ back ∈ text.toList.tails, back <+: word.toList ∨ word.toList <+: back → back = []

instance (word text : String) : Decidable (StartsNowhere word text) :=
  inferInstanceAs (Decidable
    (∀ back ∈ text.toList.tails, back <+: word.toList ∨ word.toList <+: back → back = []))

theorem infix_of_infix_append {w xs ys : List Char}
    (h : ∀ back ∈ xs.tails, back <+: w ∨ w <+: back → back = []) (hw : w <:+: xs ++ ys) :
    w <:+: ys := by
  induction xs with
  | nil => exact hw
  | cons x xs ih =>
    rw [List.tails_cons, List.forall_mem_cons] at h
    obtain hfront | hlater := List.infix_cons_iff.1 hw
    · have hboth : x :: xs <+: w ∨ w <+: x :: xs :=
        List.prefix_or_prefix_of_prefix (List.prefix_append (x :: xs) ys) hfront
      exact absurd (h.1 hboth) (List.cons_ne_nil x xs)
    · exact ih h.2 hlater

variable {front back word : String}

/-- A word that starts nowhere in the front of a text is found after it. -/
theorem Contains.after (h : Contains (front ++ back) word) (hfront : StartsNowhere word front) :
    Contains back word := by
  rw [Contains, String.toList_append] at h
  exact infix_of_infix_append hfront h

/-- A word does not reach across a character that it does not hold. -/
theorem Contains.beside (h : Contains (front ++ back) word) {c : Char}
    (hback : back.toList.head? = some c) (hc : c ∉ word.toList) :
    Contains front word ∨ Contains back word := by
  rw [Contains, String.toList_append] at h
  obtain hin | hin | ⟨xs, ys, hword, hxs, hys⟩ := List.infix_append_iff.1 h
  · exact .inl hin
  · exact .inr hin
  · obtain ⟨cs, hcs⟩ := List.head?_eq_some_iff.1 hback
    rw [hcs] at hys
    obtain rfl | ⟨rest, rfl, -⟩ := List.prefix_cons_iff.1 hys
    · left
      rw [Contains, hword, List.append_nil]
      exact hxs.isInfix
    · rw [hword] at hc
      exact absurd (List.mem_append_right xs List.mem_cons_self) hc

end Text

/-! ## flavours -/

namespace AggregateText

/-- The tokens of a written call. -/
def capabilities (c : AggregateText) : List AggregateCapability :=
  c.function.capabilities c.args.isEmpty c.distinct c.separator.isSome c.orderBy.isSome

/-- The call over all values. -/
def overAll (c : AggregateText) : AggregateText :=
  { c with distinct := false }

variable {c : AggregateText} {name : String}

@[simp] theorem arg_overAll : c.overAll.arg = c.arg := rfl

@[simp] theorem orderOrSelf_overAll : c.overAll.orderOrSelf = c.orderOrSelf := rfl

@[simp] theorem separatorLiteral_overAll : c.overAll.separatorLiteral = c.separatorLiteral := rfl

@[simp] theorem distinctWord_overAll : c.overAll.distinctWord = "" := rfl

theorem distinctWord_of_distinct (h : c.distinct = true) : c.distinctWord = "DISTINCT " :=
  if_pos h

/-! ### the word of distinct values -/

theorem separatorClause_ne_overAll (h : c.distinct = true) :
    c.separatorClause name ≠ c.overAll.separatorClause name := by
  simp [separatorClause, distinctWord_of_distinct h]

theorem listagg_ne_overAll (h : c.distinct = true) : c.listagg ≠ c.overAll.listagg := by
  simp [listagg, distinctWord_of_distinct h]

/-- A plain call over distinct values says so, whatever the function. -/
theorem plainAggregate_ne_overAll (t : Target) (h : c.distinct = true) (hargs : c.args ≠ []) :
    t.plainAggregate c ≠ t.plainAggregate c.overAll := by
  have hfunction : c.overAll.function = c.function := rfl
  have hsame : c.overAll.args = c.args := rfl
  rw [Target.plainAggregate, Target.plainAggregate, hfunction, hsame]
  simp only [hargs, and_false, if_false]
  split
  · exact separatorClause_ne_overAll h
  · simp [distinctWord_of_distinct h]

/-! ### the parts of a concatenation -/

/-- A text shows the argument, the separator, the order and the distinct values of a
concatenation. -/
structure Shows (c : AggregateText) (text : String) : Prop where
  arg : Text.Contains text c.arg
  separator : Text.Contains text c.separatorLiteral
  order : Text.Contains text ("ORDER BY " ++ c.orderOrSelf)
  distinct : c.distinct = true → Text.Contains text ("DISTINCT " ++ c.arg)

/-- The word of distinct values right before the argument. -/
theorem contains_distinct {pieces : List String} (h : [c.distinctWord, c.arg] <:+: pieces)
    (hdistinct : c.distinct = true) :
    Text.Contains (String.join pieces) ("DISTINCT " ++ c.arg) := by
  rw [distinctWord_of_distinct hdistinct] at h
  simpa using Text.contains_join h

/-- A text shows what its pieces show; the order has its keyword in front of it. -/
theorem shows_join {pieces : List String} (harg : c.arg ∈ pieces)
    (hseparator : c.separatorLiteral ∈ pieces)
    (horder : ["ORDER BY ", c.orderOrSelf] <:+: pieces)
    (hdistinct : c.distinct = true → [c.distinctWord, c.arg] <:+: pieces) :
    c.Shows (String.join pieces) where
  arg := Text.contains_of_mem harg
  separator := Text.contains_of_mem hseparator
  order := by simpa using Text.contains_join horder
  distinct h := contains_distinct (hdistinct h) h

theorem shows_separatorClause : c.Shows (c.separatorClause name) := by
  have hpieces : c.separatorClause name = String.join [name, "(", c.distinctWord, c.arg, " ",
      "ORDER BY ", c.orderOrSelf, " SEPARATOR ", c.separatorLiteral, ")"] := by
    apply String.toList_inj.1
    simp [separatorClause]
  rw [hpieces]
  apply shows_join <;> simp [List.infix_cons_iff]

theorem shows_listagg : c.Shows c.listagg := by
  have hpieces : c.listagg = String.join ["LISTAGG(", c.distinctWord, c.arg, ", ",
      c.separatorLiteral, ") WITHIN GROUP (", "ORDER BY ", c.orderOrSelf, ")"] := by
    apply String.toList_inj.1
    simp [listagg]
  rw [hpieces]
  apply shows_join <;> simp [List.infix_cons_iff]

end AggregateText

namespace Dialect

/-- A dialect declares every token of a written call. -/
def Declares (d : Dialect) (c : AggregateText) : Prop :=
  ∀ token ∈ c.capabilities, d.capabilities.aggregates.contains token = true

instance (d : Dialect) (c : AggregateText) : Decidable (d.Declares c) :=
  inferInstanceAs
    (Decidable (∀ token ∈ c.capabilities, d.capabilities.aggregates.contains token = true))

variable {d : Dialect} {p : Properties} {t : Target} {c : AggregateText} {a : String}

theorem Declares.groupConcat (h : d.Declares c) (hf : c.function = .groupConcat) :
    d.capabilities.aggregates.contains .groupConcat = true := by
  refine h _ ?_
  simp [AggregateText.capabilities, hf, AggregateFunction.capabilities]

theorem Declares.groupConcatDistinct (h : d.Declares c) (hf : c.function = .groupConcat)
    (hdistinct : c.distinct = true) :
    d.capabilities.aggregates.contains .groupConcatDistinct = true := by
  refine h _ ?_
  simp [AggregateText.capabilities, hf, AggregateFunction.capabilities, hdistinct]

theorem Declares.groupConcatOrderBy (h : d.Declares c) (hf : c.function = .groupConcat)
    {keys : String} (horder : c.orderBy = some keys) :
    d.capabilities.aggregates.contains .groupConcatOrderBy = true := by
  refine h _ ?_
  simp [AggregateText.capabilities, hf, AggregateFunction.capabilities, horder]

/-! ## distinct values -/

/-- Only concatenation has forms of its own, and the median of one dialect. -/
theorem aggregateForm_eq_none (ht : d.target p = .ok t) (hf : c.function ≠ .groupConcat)
    (hm : ¬(d = .postgreSql ∧ c.function = .median)) : t.aggregateForm c = none := by
  cases d with
  | generic =>
    obtain ⟨_, _, _, _, _, _, rfl⟩ := Generic.exists_of_target ht
    rfl
  | oracle =>
    obtain ⟨override, rfl⟩ := Oracle.exists_of_target ht
    simp [Oracle.targetOf, Oracle.aggregateForm]
  | postgreSql =>
    cases ht
    have hmedian : c.function ≠ .median := fun h => hm ⟨rfl, h⟩
    simp [PostgreSql.target, PostgreSql.aggregateForm]
  | athena | db2 | hive | impala | redshift | sqlServer =>
    cases ht
    simp [Athena.target, Athena.aggregateForm, Db2.target, Db2.aggregateForm, Hive.target,
      Hive.aggregateForm, Impala.target, Impala.aggregateForm, Redshift.target,
      Redshift.aggregateForm, SqlServer.target, SqlServer.aggregateForm]
  | mySql | native | sybase | teradata =>
    cases ht
    rfl

theorem aggregateText_of_plain (h : t.aggregateForm c = none) :
    t.aggregateText c = t.plainAggregate c := by
  rw [Target.aggregateText, h, Option.getD_none]

/-- A declared concatenation of distinct values says so. -/
theorem groupConcat_ne_overAll (ht : d.target p = .ok t) (hf : c.function = .groupConcat)
    (hdeclared : d.Declares c) (hdistinct : c.distinct = true) (hargs : c.args ≠ []) :
    t.aggregateText c ≠ t.aggregateText c.overAll := by
  have hfunction : c.overAll.function = .groupConcat := hf
  have htoken := hdeclared.groupConcatDistinct hf hdistinct
  have hword := AggregateText.distinctWord_of_distinct hdistinct
  cases d with
  | mySql | native =>
    cases ht
    exact AggregateText.plainAggregate_ne_overAll _ hdistinct hargs
  | oracle =>
    obtain ⟨override, rfl⟩ := Oracle.exists_of_target ht
    simpa [Target.aggregateText, Oracle.targetOf, Oracle.aggregateForm, hf, hfunction] using
      AggregateText.listagg_ne_overAll hdistinct
  | db2 | redshift =>
    cases ht
    simpa [Target.aggregateText, Db2.target, Db2.aggregateForm, Redshift.target,
      Redshift.aggregateForm, hf, hfunction] using AggregateText.listagg_ne_overAll hdistinct
  | athena =>
    cases ht
    simp [Target.aggregateText, Athena.target, Athena.aggregateForm, hf, hfunction, hword]
  | impala =>
    cases ht
    simp [Target.aggregateText, Impala.target, Impala.aggregateForm, hf, hfunction, hword]
  | hive =>
    cases ht
    have hall : c.overAll.distinct = false := rfl
    simp [Target.aggregateText, Hive.target, Hive.aggregateForm, hf, hfunction, hdistinct, hall]
  | generic | postgreSql | sqlServer | sybase | teradata =>
    exact absurd htoken (by decide)

theorem PostgreSql.aggregateText_median (hf : c.function = .median) :
    PostgreSql.target.aggregateText c =
      "PERCENTILE_CONT(0.5) WITHIN GROUP (ORDER BY " ++ c.arg ++ ")" := by
  simp [Target.aggregateText, PostgreSql.target, PostgreSql.aggregateForm, hf]

/-- **A declared aggregate keeps its distinct values.**  The text of a declared call over distinct
values of at least one argument differs from the text of the same call over all values, whatever
the texts of the arguments, the order and the separator; the one exception is the median of
PostgreSQL, which has no place for the word. -/
theorem distinct_shows_iff (ht : d.target p = .ok t) (hdeclared : d.Declares c)
    (hdistinct : c.distinct = true) (hargs : c.args ≠ []) :
    t.aggregateText c ≠ t.aggregateText { c with distinct := false } ↔
      ¬(d = .postgreSql ∧ c.function = .median) := by
  constructor
  · rintro hne ⟨rfl, hf⟩
    cases ht
    have hall : c.overAll.function = .median := hf
    have htext := PostgreSql.aggregateText_median hf
    exact hne (htext.trans (PostgreSql.aggregateText_median hall).symm)
  · intro hm
    by_cases hf : c.function = .groupConcat
    · exact groupConcat_ne_overAll ht hf hdeclared hdistinct hargs
    · have hplain : t.aggregateForm c = none := aggregateForm_eq_none ht hf hm
      have hplainAll : t.aggregateForm c.overAll = none := aggregateForm_eq_none ht hf hm
      have hne := AggregateText.plainAggregate_ne_overAll t hdistinct hargs
      rw [← aggregateText_of_plain hplain, ← aggregateText_of_plain hplainAll] at hne
      exact hne

/-- Sums of distinct values say so, and the median of distinct values is written as that of all
values. -/
theorem distinct_lost_by_median :
    PostgreSql.target.aggregateText ⟨.sum, ["T.A"], true, none, none⟩ ≠
        PostgreSql.target.aggregateText ⟨.sum, ["T.A"], false, none, none⟩ ∧
      postgreSql.Declares ⟨.median, ["T.A"], true, none, none⟩ ∧
      PostgreSql.target.aggregateText ⟨.median, ["T.A"], true, none, none⟩ =
        PostgreSql.target.aggregateText ⟨.median, ["T.A"], false, none, none⟩ := by
  have hbuilt : postgreSql.target {} = .ok PostgreSql.target := rfl
  have hmedian : postgreSql.Declares ⟨.median, ["T.A"], true, none, none⟩ := by decide
  have hsum : postgreSql.Declares ⟨.sum, ["T.A"], true, none, none⟩ := by decide
  refine ⟨?_, hmedian, ?_⟩
  · exact (distinct_shows_iff hbuilt hsum rfl (by decide)).2 (by decide)
  · by_contra hne
    exact (distinct_shows_iff hbuilt hmedian rfl (by decide)).1 hne ⟨rfl, rfl⟩

/-! ## concatenations -/

theorem Athena.shows_aggregateText (hf : c.function = .groupConcat) :
    c.Shows (Athena.target.aggregateText c) := by
  have hpieces : Athena.target.aggregateText c = String.join ["ARRAY_JOIN(ARRAY_AGG(",
      c.distinctWord, c.arg, " ", "ORDER BY ", c.orderOrSelf, "), ", c.separatorLiteral, ")"] := by
    apply String.toList_inj.1
    simp [Target.aggregateText, Athena.target, Athena.aggregateForm, hf]
  rw [hpieces]
  apply AggregateText.shows_join <;> simp [List.infix_cons_iff]

theorem PostgreSql.shows_aggregateText (hf : c.function = .groupConcat)
    (hdistinct : c.distinct ≠ true) : c.Shows (PostgreSql.target.aggregateText c) := by
  have hpieces : PostgreSql.target.aggregateText c = String.join ["STRING_AGG(", c.distinctWord,
      "CAST(", c.arg, " AS TEXT), ", c.separatorLiteral, " ", "ORDER BY ", c.orderOrSelf, ")"] := by
    apply String.toList_inj.1
    simp [Target.aggregateText, PostgreSql.target, PostgreSql.aggregateForm, Calls.cast, hf]
  rw [hpieces]
  apply AggregateText.shows_join <;> simp [List.infix_cons_iff, hdistinct]

theorem SqlServer.shows_aggregateText (hf : c.function = .groupConcat)
    (hdistinct : c.distinct ≠ true) : c.Shows (SqlServer.target.aggregateText c) := by
  have hpieces : SqlServer.target.aggregateText c = String.join ["STRING_AGG(CAST(", c.arg,
      " AS NVARCHAR(MAX)), ", c.separatorLiteral, ") WITHIN GROUP (", "ORDER BY ", c.orderOrSelf,
      ")"] := by
    apply String.toList_inj.1
    simp [Target.aggregateText, SqlServer.target, SqlServer.aggregateForm, Calls.cast, hf]
  rw [hpieces]
  apply AggregateText.shows_join <;> simp [List.infix_cons_iff, hdistinct]

/-- A declared concatenation shows everything about it, where concatenations are ordered. -/
theorem shows_aggregateText (ht : d.target p = .ok t) (hf : c.function = .groupConcat)
    (hdeclared : d.Declares c) (hordered : ¬(d = .hive ∨ d = .impala)) :
    c.Shows (t.aggregateText c) := by
  have htoken := hdeclared.groupConcat hf
  have hword := hdeclared.groupConcatDistinct hf
  cases d with
  | mySql | native =>
    cases ht
    simpa [Target.aggregateText, MySql.target, Native.target, Target.plainAggregate, hf] using
      AggregateText.shows_separatorClause
  | oracle =>
    obtain ⟨override, rfl⟩ := Oracle.exists_of_target ht
    simpa [Target.aggregateText, Oracle.targetOf, Oracle.aggregateForm, hf] using
      AggregateText.shows_listagg
  | db2 | redshift =>
    cases ht
    simpa [Target.aggregateText, Db2.target, Db2.aggregateForm, Redshift.target,
      Redshift.aggregateForm, hf] using AggregateText.shows_listagg
  | athena =>
    cases ht
    exact Athena.shows_aggregateText hf
  | postgreSql =>
    cases ht
    exact PostgreSql.shows_aggregateText hf fun h => absurd (hword h) (by decide)
  | sqlServer =>
    cases ht
    exact SqlServer.shows_aggregateText hf fun h => absurd (hword h) (by decide)
  | hive | impala => simp at hordered
  | generic | sybase | teradata => exact absurd htoken (by decide)

/-! ### without an order -/

/-- Only the argument and the separator of a call can bring an order into its text. -/
def WritesNoOrder (c : AggregateText) (text : String) : Prop :=
  Text.Contains text "ORDER BY " →
    Text.Contains c.arg "ORDER BY " ∨ Text.Contains c.separatorLiteral "ORDER BY "

theorem Hive.aggregateText_groupConcat (hf : c.function = .groupConcat) :
    Hive.target.aggregateText c = String.join ["CONCAT_WS(", c.separatorLiteral, ", ",
      if c.distinct then "COLLECT_SET" else "COLLECT_LIST", "(", c.arg, ")", ")"] := by
  apply String.toList_inj.1
  simp [Target.aggregateText, Hive.target, Hive.aggregateForm, hf]

theorem Hive.contains_aggregateText (hf : c.function = .groupConcat) :
    Text.Contains (Hive.target.aggregateText c) c.arg ∧
      Text.Contains (Hive.target.aggregateText c) c.separatorLiteral ∧
      (c.distinct = true →
        Text.Contains (Hive.target.aggregateText c) ("COLLECT_SET(" ++ c.arg ++ ")")) := by
  rw [Hive.aggregateText_groupConcat hf]
  refine ⟨Text.contains_of_mem (by simp), Text.contains_of_mem (by simp), fun hdistinct => ?_⟩
  have hcollect :
      "COLLECT_SET(" ++ c.arg ++ ")" = String.join ["COLLECT_SET", "(", c.arg, ")"] := by
    apply String.toList_inj.1
    simp
  rw [hcollect, if_pos hdistinct]
  exact Text.contains_join (by simp [List.infix_cons_iff])

theorem Hive.writesNoOrder (hf : c.function = .groupConcat) :
    WritesNoOrder c (Hive.target.aggregateText c) := by
  intro h
  simp only [Hive.aggregateText_groupConcat hf, String.join_cons, String.join_nil] at h
  have hname := h.after (by decide)
  obtain hseparator | hrest := hname.beside (c := ',') (by simp) (by decide)
  · exact .inr hseparator
  · have hcollect := (hrest.after (by decide)).after (by split <;> decide)
    obtain harg | hclose := (hcollect.after (by decide)).beside (c := ')') (by simp) (by decide)
    · exact .inl harg
    · exact absurd hclose (by decide)

theorem Impala.aggregateText_groupConcat (hf : c.function = .groupConcat) :
    Impala.target.aggregateText c = String.join ["GROUP_CONCAT(", c.distinctWord, c.arg, ", ",
      c.separatorLiteral, ")"] := by
  apply String.toList_inj.1
  simp [Target.aggregateText, Impala.target, Impala.aggregateForm, hf]

theorem Impala.contains_aggregateText (hf : c.function = .groupConcat) :
    Text.Contains (Impala.target.aggregateText c) c.arg ∧
      Text.Contains (Impala.target.aggregateText c) c.separatorLiteral ∧
      (c.distinct = true →
        Text.Contains (Impala.target.aggregateText c) ("DISTINCT " ++ c.arg)) := by
  rw [Impala.aggregateText_groupConcat hf]
  refine ⟨Text.contains_of_mem (by simp), Text.contains_of_mem (by simp), ?_⟩
  exact AggregateText.contains_distinct (by simp [List.infix_cons_iff])

theorem Impala.writesNoOrder (hf : c.function = .groupConcat) :
    WritesNoOrder c (Impala.target.aggregateText c) := by
  have hfixed : Text.StartsNowhere "ORDER BY " c.distinctWord := by
    unfold AggregateText.distinctWord
    split <;> decide
  intro h
  simp only [Impala.aggregateText_groupConcat hf, String.join_cons, String.join_nil] at h
  have hword := (h.after (by decide)).after hfixed
  obtain harg | hrest := hword.beside (c := ',') (by simp) (by decide)
  · exact .inl harg
  · obtain hseparator | hclose := (hrest.after (by decide)).beside (c := ')') (by simp) (by decide)
    · exact .inr hseparator
    · exact absurd hclose (by decide)

/-- **A declared concatenation keeps its flavour.**  The text of a declared concatenation of one
argument holds the argument and the separator as a literal, a comma without one.  It holds the
order: the keys, and without keys the argument itself, but for Hive and Impala, where nothing but
the argument and the separator can bring an order into the text.  Over distinct values it says so in
front of the argument, in Hive by the function that collects. -/
theorem groupConcat_keeps (ht : d.target p = .ok t) (hf : c.function = .groupConcat)
    (hargs : c.args = [a]) (hdeclared : d.Declares c) :
    Text.Contains (t.aggregateText c) a ∧
      Text.Contains (t.aggregateText c) (Text.stringLiteral (c.separator.getD ",")) ∧
      (∀ keys, c.orderBy = some keys → Text.Contains (t.aggregateText c) ("ORDER BY " ++ keys)) ∧
      (c.orderBy = none →
        if d = .hive ∨ d = .impala then WritesNoOrder c (t.aggregateText c)
        else Text.Contains (t.aggregateText c) ("ORDER BY " ++ a)) ∧
      (c.distinct = true → Text.Contains (t.aggregateText c)
        (if d = .hive then "COLLECT_SET(" ++ a ++ ")" else "DISTINCT " ++ a)) := by
  have harg : c.arg = a := by rw [AggregateText.arg, hargs, List.head?_cons, Option.getD_some]
  subst harg
  have horder (keys : String) (hkeys : c.orderBy = some keys) :=
    hdeclared.groupConcatOrderBy hf hkeys
  by_cases hplain : d = .hive ∨ d = .impala
  · rw [if_pos hplain]
    obtain rfl | rfl := hplain
    · cases ht
      obtain ⟨harg, hseparator, hdistinct⟩ := Hive.contains_aggregateText hf
      exact ⟨harg, hseparator, fun keys hkeys => absurd (horder keys hkeys) (by decide),
        fun _ => Hive.writesNoOrder hf, hdistinct⟩
    · cases ht
      obtain ⟨harg, hseparator, hdistinct⟩ := Impala.contains_aggregateText hf
      exact ⟨harg, hseparator, fun keys hkeys => absurd (horder keys hkeys) (by decide),
        fun _ => Impala.writesNoOrder hf, hdistinct⟩
  · obtain ⟨harg, hseparator, horder, hdistinct⟩ := shows_aggregateText ht hf hdeclared hplain
    rw [AggregateText.orderOrSelf] at horder
    rw [if_neg hplain, if_neg fun h => hplain (.inl h)]
    refine ⟨harg, hseparator, fun keys hkeys => ?_, fun hnone => ?_, hdistinct⟩
    · rwa [hkeys, Option.getD_some] at horder
    · rwa [hnone, Option.getD_none] at horder

/-- A quote as separator of distinct values that are collected in no order. -/
theorem groupConcat_keeps_quote :
    hive.Declares ⟨.groupConcat, ["T.A"], true, none, some "'"⟩ ∧
      Text.Contains (Hive.target.aggregateText ⟨.groupConcat, ["T.A"], true, none, some "'"⟩)
        (Text.stringLiteral "'") ∧
      Text.Contains (Hive.target.aggregateText ⟨.groupConcat, ["T.A"], true, none, some "'"⟩)
        ("COLLECT_SET(" ++ "T.A" ++ ")") ∧
      ¬Text.Contains (Hive.target.aggregateText ⟨.groupConcat, ["T.A"], true, none, some "'"⟩)
        "ORDER BY " := by
  have hbuilt : hive.target {} = .ok Hive.target := rfl
  have hdeclared : hive.Declares ⟨.groupConcat, ["T.A"], true, none, some "'"⟩ := by decide
  obtain ⟨-, hseparator, -, horder, hdistinct⟩ := groupConcat_keeps hbuilt rfl rfl hdeclared
  refine ⟨hdeclared, hseparator, hdistinct rfl, fun hcontains => ?_⟩
  exact absurd (horder rfl hcontains) (by decide +kernel)

end Dialect

end RemoteQuery
