import RemoteQuery.Proofs.Rendering
import RemoteQuery.Proofs.Templated

/-!
# RemoteQuery.Proofs.Assembly

What the text of a query is assembled from.  Where the rules of a target are
templates, the names and the strings of a query are the only texts that are put
into them, so whatever templates preserve holds of the text of a query as soon as
it holds of its written names and strings.

* `Expr.Supplied`, `Select.Supplied` — the written names and strings are given;
* `Target.assembled_render` — the text of an expression is assembled from them;
* `Target.assembled_generate` — so is the text of a query.
-/

namespace RemoteQuery

open Assembled

/-! ## names and strings -/

/-- The names a table brings along. -/
def TableRef.names (table : TableRef) : List String :=
  table.catalog.toList ++ table.schema.toList ++ table.name :: table.aliasName.toList ++
    table.columns.map (·.name)

theorem TableRef.mem_names_of_allColumns {table : TableRef} {c : ColumnRef}
    (h : c ∈ table.allColumns) : c.qualifier ∈ table.names ∧ c.metadata.name ∈ table.names := by
  obtain ⟨⟨column, i⟩, hmem, rfl⟩ := List.mem_map.1 h
  have hcolumn : column ∈ table.columns := List.fst_mem_of_mem_zipIdx hmem
  constructor
  · cases halias : table.aliasName <;>
      simp [names, reference, ColumnRef.qualifier, halias]
  · have hname : column.name ∈ table.columns.map (·.name) := List.mem_map_of_mem hcolumn
    exact List.mem_append_right _ hname

/-- The value that is written as a string literal for a literal: a string or the text of an
interval. -/
def Literal.quoted? : Literal → Option String
  | string value | interval value _ => some value
  | _ => none

/-- The value that is written as a string literal for an expression itself: that of a literal, or
the separator of a concatenation. -/
def Expr.quoted? : Expr → Option String
  | literal l => l.quoted?
  | aggregate .groupConcat _ _ _ separator => separator
  | _ => none

/-- A query has the value of a string literal in it. -/
def Select.Quotes (s : Select) (value : String) : Prop :=
  ∃ e, s.Occurs e ∧ e.quoted? = some value

variable {Given : String → Prop}

/-- The names and strings in an expression are given as a profile writes them. -/
structure Expr.Supplied (d : Profile) (Given : String → Prop) (e : Expr) : Prop where
  columns : ∀ c, (Expr.column c).Occurs e →
    Given (d.identifierText c.qualifier) ∧ Given (d.identifierText c.metadata.name)
  strings : ∀ (x : Expr) value, x.Occurs e → x.quoted? = some value →
    Given (Text.stringLiteral value)

/-- The names and strings in a query are given as a profile writes them. -/
structure Select.Supplied (d : Profile) (Given : String → Prop) (s : Select) : Prop where
  source : ∀ name ∈ s.source.names, Given (d.identifierText name)
  columns : ∀ c, s.Occurs (.column c) →
    Given (d.identifierText c.qualifier) ∧ Given (d.identifierText c.metadata.name)
  strings : ∀ value, s.Quotes value → Given (Text.stringLiteral value)

theorem Expr.Supplied.child {d : Profile} {e child : Expr} (h : e.Supplied d Given)
    (hc : child ∈ e.children) : child.Supplied d Given :=
  ⟨fun c hocc => h.columns c (.inside hc hocc),
    fun x value hocc => h.strings x value (.inside hc hocc)⟩

theorem Select.Supplied.expr {d : Profile} {s : Select} {e : Expr} (h : s.Supplied d Given)
    (he : e ∈ s.expressions) : e.Supplied d Given :=
  ⟨fun c hocc => h.columns c ⟨e, he, hocc⟩,
    fun x value hocc hx => h.strings value ⟨x, ⟨e, he, hocc⟩, hx⟩⟩

namespace Target

variable {t : Target} {p : Position} {sql : String}

/-! ## columns and literals -/

theorem assembled_plainColumn {c : ColumnRef}
    (h : Given (t.profile.identifierText c.qualifier) ∧
      Given (t.profile.identifierText c.metadata.name)) : Assembled Given (t.plainColumn c) := by
  refine of_pieces [.part (t.profile.identifierText c.qualifier), .fixed ".",
    .part (t.profile.identifierText c.metadata.name)] rfl rfl ?_
  simp only [Piece.contents, List.forall_mem_cons]
  exact ⟨.given h.1, .given h.2, by simp⟩

namespace Templated

variable (ht : t.Templated)
include ht

theorem assembled_columnText {c : ColumnRef}
    (h : Given (t.profile.identifierText c.qualifier) ∧
      Given (t.profile.identifierText c.metadata.name)) : Assembled Given (t.columnText c p) := by
  have hplain := assembled_plainColumn h
  cases p with
  | nested => exact hplain
  | selectList =>
    rw [columnText]
    cases hform : t.transportForm c.metadata (t.plainColumn c) with
    | none => exact hplain
    | some out => exact ht.transportForm hplain hform

/-- A literal is a string, a number or held together by a template. -/
theorem plainLiteral_cases {l : Literal}
    (hl : ∀ value, l.quoted? = some value → Given (Text.stringLiteral value))
    (h : t.plainLiteral l = .ok sql) :
    (∃ s, l = .string s ∧ Text.stringLiteral s = sql) ∨
      (∀ s, l ≠ .string s) ∧ (Text.IsNumeral sql.toList ∨ Delimited Given sql) := by
  cases l with
  | null => cases h; exact .inr ⟨nofun, .inr (.word rfl)⟩
  | bool b => cases h; exact .inr ⟨nofun, .inr (ht.boolLiteral b)⟩
  | exactNumeric d => cases h; exact .inr ⟨nofun, .inl d.isNumeral_text⟩
  | double x =>
    rw [plainLiteral] at h
    split at h
    next hx =>
      cases h
      exact .inr ⟨nofun, .inl (Double.isNumeral_text hx)⟩
    next => cases h
  | date d => cases h; exact .inr ⟨nofun, .inr (ht.dateLiteral d)⟩
  | timestamp s => cases h; exact .inr ⟨nofun, .inr (ht.timestampLiteral s)⟩
  | string s => cases h; exact .inl ⟨s, rfl, rfl⟩
  | interval value kind =>
    cases h
    exact .inr ⟨nofun, .inr (ht.intervalLiteral kind (.given (hl value rfl)))⟩

theorem assembled_literalText {l : Literal}
    (hl : ∀ value, l.quoted? = some value → Given (Text.stringLiteral value))
    (h : t.literalText l p = .ok sql) : Assembled Given sql := by
  obtain ⟨plain, hplain, rfl⟩ := map_eq_ok.1 h
  have hassembled : Assembled Given plain := by
    obtain ⟨s, rfl, rfl⟩ | ⟨-, hnumeral | hdelimited⟩ := ht.plainLiteral_cases hl hplain
    · exact .given (hl s rfl)
    · exact .numeral hnumeral
    · exact hdelimited.assembled
  split
  · exact ht.selectedNumber hassembled
  · exact hassembled

theorem assembled_callText {casts : Bool} (h : Assembled Given sql) :
    Assembled Given (t.callText casts p sql) := by
  unfold callText
  split
  · exact Calls.assembled_cast h (word ht.doubleType)
  · exact h

end Templated

/-! ## expressions -/

theorem assembled_delimit {e : Expr} (h : Assembled Given sql) :
    Assembled Given (e.delimit sql) := by
  unfold Expr.delimit
  split
  · exact h
  · exact of_pieces [.fixed "(", .part sql, .fixed ")"] rfl rfl
      (by simpa [Piece.contents] using h)

theorem assembled_junction {keyword : String} {empty : QueryError} {parts : List String}
    (hkeyword : Piece.closed
      [.fixed "(", .parts (" " ++ keyword ++ " ") parts, .fixed ")"] = true)
    (hparts : ∀ part ∈ parts, Assembled Given part) (h : junction keyword empty parts = .ok sql) :
    Assembled Given sql := by
  obtain rfl | ⟨-, rfl⟩ := junction_eq_ok.1 h
  · exact hparts sql List.mem_cons_self
  · exact of_pieces [.fixed "(", .parts (" " ++ keyword ++ " ") parts, .fixed ")"] hkeyword rfl
      (by simpa [Piece.contents] using hparts)

theorem assembled_keyTexts {k : OrderKey Expr} (h : Assembled Given sql) :
    ∀ text ∈ t.keyTexts k sql, Assembled Given text := by
  have hworded : ∀ direction place : String,
      Piece.closed [.part sql, .fixed direction, .fixed place] = true →
      Assembled Given (sql ++ direction ++ place) := fun direction place hclosed =>
    of_pieces [.part sql, .fixed direction, .fixed place] hclosed rfl
      (by simpa [Piece.contents] using h)
  have hvalue : ∀ ascending nullsLast,
      Assembled Given (SortKey.value sql ascending nullsLast).text := by
    intro ascending nullsLast
    cases ascending <;> rcases nullsLast with _ | _ | _ <;> exact hworded _ _ rfl
  have habsence : ∀ nullsLast, Assembled Given (SortKey.absence sql nullsLast).text := by
    intro nullsLast
    cases nullsLast with
    | true =>
      exact of_pieces [.fixed "CASE WHEN ", .part sql, .fixed " IS NULL THEN 1 ELSE 0 END"] rfl rfl
        (by simpa [Piece.contents] using h)
    | false =>
      exact of_pieces [.fixed "CASE WHEN ", .part sql, .fixed " IS NULL THEN 0 ELSE 1 END"] rfl rfl
        (by simpa [Piece.contents] using h)
  unfold keyTexts Profile.sortKeys
  split
  · simpa using hvalue _ _
  · split
    · simpa using hvalue _ _
    · simpa using ⟨habsence _, hvalue _ _⟩

/-- Members of lists that are related one by one. -/
theorem forall_of_forall₂ {α : Type} {R : α → String → Prop} {as : List α} {texts : List String}
    {S : String → Prop} (h : List.Forall₂ R as texts) (hS : ∀ a ∈ as, ∀ text, R a text → S text) :
    ∀ text ∈ texts, S text := by
  induction h with
  | nil => exact fun _ ht => absurd ht List.not_mem_nil
  | cons hr _ ih =>
    rw [List.forall_mem_cons] at hS ⊢
    exact ⟨hS.1 _ hr, ih hS.2⟩

theorem assembled_renderKeys {keys : List (OrderKey Expr)} {texts : List String}
    (hkeys : ∀ k ∈ keys, ∀ sql, t.render .nested k.expr = .ok sql → Assembled Given sql)
    (h : t.renderKeys keys = .ok texts) : ∀ text ∈ texts, Assembled Given text := by
  obtain ⟨parts, hparts, rfl⟩ := renderKeys_eq_ok.1 h
  clear h
  induction hparts with
  | nil => exact fun _ ht => absurd ht List.not_mem_nil
  | cons hk _ ih =>
    obtain ⟨sql, hsql, rfl⟩ := hk
    rw [List.forall_mem_cons] at hkeys
    intro text ht
    obtain ht | ht := List.mem_append.1 ht
    · exact assembled_keyTexts (hkeys.1 sql hsql) text ht
    · exact ih hkeys.2 text ht

theorem assembled_list {texts : List String} (h : ∀ text ∈ texts, Assembled Given text) :
    Assembled Given (", ".intercalate texts) :=
  of_pieces [.parts ", " texts] rfl rfl (by simpa [Piece.contents] using h)

/-- A condition is assembled from its operands. -/
theorem assembled_condition {e : Expr} (he : e.isPredicate = true)
    (hchild : ∀ c ∈ e.children, ∀ sql, t.render .nested c = .ok sql → Assembled Given sql)
    (h : t.render p e = .ok sql) : Assembled Given sql := by
  have hoperand : ∀ c ∈ e.children, ∀ text, t.renderOperand c = .ok text →
      Assembled Given text := by
    intro c hc text htext
    obtain ⟨inner, hinner, rfl⟩ := renderOperand_eq_ok.1 htext
    exact assembled_delimit (hchild c hc inner hinner)
  cases e with
  | column | literal | scalar | aggregate => contradiction
  | and es =>
    obtain ⟨parts, hparts, hsql⟩ := render_and.1 h
    exact assembled_junction rfl (forall_of_forall₂ (renderAll_eq_ok.1 hparts) hchild) hsql
  | or es =>
    obtain ⟨parts, hparts, hsql⟩ := render_or.1 h
    exact assembled_junction rfl (forall_of_forall₂ (renderAll_eq_ok.1 hparts) hchild) hsql
  | not e =>
    obtain ⟨inner, hinner, rfl⟩ := render_not.1 h
    have hinner := hchild e List.mem_cons_self inner hinner
    exact of_pieces [.fixed "NOT (", .part inner, .fixed ")"] rfl rfl
      (by simpa [Piece.contents] using hinner)
  | compare op l r =>
    obtain ⟨a, b, ha, hb, rfl⟩ := render_compare.1 h
    have ha := hoperand l (by simp [Expr.children, Expr.operands]) a ha
    have hb := hoperand r (by simp [Expr.children, Expr.operands]) b hb
    have hop : Assembled Given op.symbol := by cases op <;> exact word rfl
    exact of_pieces [.part a, .fixed " ", .part op.symbol, .fixed " ", .part b] rfl rfl
      (by simp [Piece.contents, ha, hop, hb])
  | like e pattern =>
    obtain ⟨a, b, ha, hb, rfl⟩ := render_like.1 h
    have ha := hoperand e (by simp [Expr.children, Expr.operands]) a ha
    have hb := hoperand pattern (by simp [Expr.children, Expr.operands]) b hb
    exact of_pieces [.part a, .fixed " LIKE ", .part b] rfl rfl (by simp [Piece.contents, ha, hb])
  | likeEscape e pattern escape =>
    obtain ⟨a, b, c, ha, hb, hc, rfl⟩ := render_likeEscape.1 h
    have ha := hoperand e (by simp [Expr.children, Expr.operands]) a ha
    have hb := hoperand pattern (by simp [Expr.children, Expr.operands]) b hb
    have hc := hoperand escape (by simp [Expr.children, Expr.operands]) c hc
    exact of_pieces [.part a, .fixed " LIKE ", .part b, .fixed " ESCAPE ", .part c] rfl rfl
      (by simp [Piece.contents, ha, hb, hc])
  | between e low high =>
    obtain ⟨a, b, c, ha, hb, hc, rfl⟩ := render_between.1 h
    have ha := hoperand e (by simp [Expr.children, Expr.operands]) a ha
    have hb := hoperand low (by simp [Expr.children, Expr.operands]) b hb
    have hc := hoperand high (by simp [Expr.children, Expr.operands]) c hc
    exact of_pieces [.part a, .fixed " BETWEEN ", .part b, .fixed " AND ", .part c] rfl rfl
      (by simp [Piece.contents, ha, hb, hc])
  | inList e values =>
    obtain ⟨-, a, parts, ha, hparts, rfl⟩ := render_inList.1 h
    have ha := hoperand e (by simp [Expr.children, Expr.operands]) a ha
    have hparts := forall_of_forall₂ (renderOperands_eq_ok.1 hparts)
      fun c hc => hoperand c (List.mem_cons_of_mem _ hc)
    exact of_pieces [.part a, .fixed " IN (", .parts ", " parts, .fixed ")"] rfl rfl
      (by simpa [Piece.contents, ha] using hparts)
  | isNull e negated =>
    obtain ⟨a, ha, rfl⟩ := render_isNull.1 h
    have ha := hoperand e (by simp [Expr.children, Expr.operands]) a ha
    cases negated with
    | true => exact of_pieces [.part a, .fixed " IS NOT NULL"] rfl rfl (by simp [Piece.contents, ha])
    | false => exact of_pieces [.part a, .fixed " IS NULL"] rfl rfl (by simp [Piece.contents, ha])

/-- The text of a call holds its arguments together. -/
theorem Templated.delimited_scalarText (ht : t.Templated) {f : ScalarFunction} {args : List Expr}
    {parts : List String}
    (hargs : ∀ c ∈ args, ∀ text, t.renderOperand c = .ok text → Assembled Given text)
    (h : t.renderOperands args = .ok parts) : Delimited Given (t.scalarText f parts) :=
  ht.scalarText (forall_of_forall₂ (renderOperands_eq_ok.1 h) hargs)

/-- The parts of an aggregate are assembled if its arguments and ordering keys are. -/
theorem partsAssembled {f : AggregateFunction} {args : List Expr} {distinct : Bool}
    {orderBy : List (OrderKey Expr)} {separator : Option String} {parts keys : List String}
    (hargs : ∀ c ∈ args, ∀ text, t.renderOperand c = .ok text → Assembled Given text)
    (hkeys : ∀ k ∈ orderBy, ∀ sql, t.render .nested k.expr = .ok sql → Assembled Given sql)
    (hseparator : ∀ value, f = .groupConcat → separator = some value →
      Given (Text.stringLiteral value))
    (h : t.renderOperands args = .ok parts) (hk : t.renderKeys orderBy = .ok keys) :
    AggregateText.PartsAssembled Given
      ⟨f, parts, distinct, orderText orderBy keys, separator⟩ := by
  refine ⟨?_, fun order ho => ?_, fun value hf hv => .given (hseparator value hf hv)⟩
  · exact forall_of_forall₂ (renderOperands_eq_ok.1 h) hargs
  · simp only [orderText] at ho
    split at ho
    · cases ho
    · cases ho
      exact assembled_list (assembled_renderKeys hkeys hk)

/-- The text of an expression is assembled from its names and strings. -/
theorem assembled_render (ht : t.Templated) {e : Expr} (hg : e.Supplied t.profile Given)
    (h : t.render p e = .ok sql) : Assembled Given sql := by
  induction e using Expr.childInduction generalizing p sql with
  | step e ih =>
    have hchild : ∀ c ∈ e.children, ∀ sql, t.render .nested c = .ok sql → Assembled Given sql :=
      fun c hc sql => ih c hc (hg.child hc)
    have hoperand : ∀ c ∈ e.children, ∀ text, t.renderOperand c = .ok text →
        Assembled Given text := by
      intro c hc text htext
      obtain ⟨inner, hinner, rfl⟩ := renderOperand_eq_ok.1 htext
      exact assembled_delimit (hchild c hc inner hinner)
    cases e with
    | column c =>
      cases h
      exact ht.assembled_columnText (hg.columns c .here)
    | literal l => exact ht.assembled_literalText (fun value => hg.strings _ value .here) h
    | scalar f args =>
      obtain ⟨-, parts, hparts, rfl⟩ := render_scalar.1 h
      exact ht.assembled_callText (ht.delimited_scalarText hoperand hparts).assembled
    | aggregate f args distinct orderBy separator =>
      obtain ⟨-, -, parts, keys, hparts, hkeys, rfl⟩ := render_aggregate.1 h
      refine ht.assembled_callText (ht.aggregateText (partsAssembled ?_ ?_ ?_ hparts hkeys)).assembled
      · exact fun c hc => hoperand c (List.mem_append_left _ hc)
      · exact fun k hk => hchild k.expr (List.mem_append_right _ (List.mem_map_of_mem hk))
      · rintro value rfl hseparator
        exact hg.strings _ value .here hseparator
    | _ => exact assembled_condition rfl hchild h

theorem assembled_renderOperand (ht : t.Templated) {e : Expr} (hg : e.Supplied t.profile Given)
    (h : t.renderOperand e = .ok sql) : Assembled Given sql := by
  obtain ⟨inner, hinner, rfl⟩ := renderOperand_eq_ok.1 h
  exact assembled_delimit (assembled_render ht hg hinner)

/-! ## queries -/

theorem assembled_tableText {table : TableRef}
    (h : ∀ name ∈ table.names, Given (t.profile.identifierText name)) :
    Assembled Given (t.tableText table) := by
  have hname : ∀ name ∈ table.names, Assembled Given (t.profile.identifierText name) :=
    fun name hn => .given (h name hn)
  have hcatalog : ∀ c, (if t.profile.qualifiesCatalog then table.catalog else none) = some c →
      Assembled Given (t.profile.identifierText c) := by
    intro c hc
    split at hc
    · exact hname c (by simp [TableRef.names, hc])
    · cases hc
  have hschema : ∀ s, (if t.profile.qualifiesSchema then table.schema else none) = some s →
      Assembled Given (t.profile.identifierText s) := by
    intro s hs
    split at hs
    · exact hname s (by simp [TableRef.names, hs])
    · cases hs
  simp only [tableText]
  generalize (if t.profile.qualifiesCatalog then table.catalog else none) = catalog at hcatalog ⊢
  generalize (if t.profile.qualifiesSchema then table.schema else none) = schema at hschema ⊢
  refine .follow (of_pieces [.parts "." _] rfl rfl ?_) ?_ ?_
  · simp only [Piece.contents, List.forall_mem_append, List.forall_mem_cons]
    refine ⟨⟨?_, hname table.name (by simp [TableRef.names]), by simp⟩, by simp⟩
    cases catalog with
    | none =>
      cases schema with
      | none => simp
      | some s => simpa using hschema s rfl
    | some c =>
      cases schema with
      | none =>
        have hempty : Assembled Given "" := word rfl
        dsimp only
        split
        · simpa [hempty] using hcatalog c rfl
        · simpa using hcatalog c rfl
      | some s => simpa using ⟨hcatalog c rfl, hschema s rfl⟩
  · cases halias : table.aliasName with
    | none => exact word rfl
    | some a =>
      have ha := hname a (by simp [TableRef.names, halias])
      exact of_pieces [.fixed " ", .part (t.profile.identifierText a)] rfl rfl
        (by simpa [Piece.contents] using ha)
  · cases table.aliasName with
    | none => exact .inl rfl
    | some a => exact .inr (by simp)

theorem assembled_listItems (ht : t.Templated) {s : Select} {aliases : Bool}
    {items : List String} (hg : s.Supplied t.profile Given)
    (h : t.listItems s aliases = .ok items) : ∀ item ∈ items, Assembled Given item := by
  unfold listItems at h
  split at h
  next =>
    split at h
    next =>
      unfold starItems at h
      split at h
      · cases h
      · cases h
        intro item hitem
        obtain ⟨c, hc, rfl⟩ := List.mem_map.1 hitem
        obtain ⟨hqualifier, hname⟩ := TableRef.mem_names_of_allColumns hc
        exact ht.assembled_columnText ⟨hg.source _ hqualifier, hg.source _ hname⟩
    next =>
      cases h
      exact List.forall_mem_singleton.2 (word rfl)
  next =>
    cases h
    exact List.forall_mem_singleton.2 (word rfl)
  next => cases h
  next es _ hlist =>
    refine forall_of_forall₂ (renderItems_eq_ok.1 h) fun e he sql hsql => ?_
    exact assembled_render ht
      (hg.expr (by simp [Select.expressions, SelectList.items, hlist, he])) hsql

theorem assembled_positionalAlias (i : Nat) : Assembled Given (positionalAlias i) := by
  refine of_pieces [.fixed "c", .part (toString i)] rfl rfl ?_
  simpa only [Piece.contents, List.forall_mem_singleton] using assembled_nat i

theorem assembled_selectItems (ht : t.Templated) {s : Select} {aliases : Bool}
    {items : List String} (hg : s.Supplied t.profile Given)
    (h : t.selectItems s aliases = .ok items) : ∀ item ∈ items, Assembled Given item := by
  obtain ⟨plain, hplain, rfl⟩ := selectItems_eq_ok.1 h
  have hitems := assembled_listItems ht hg hplain
  cases aliases with
  | false => exact hitems
  | true =>
    intro item hitem
    obtain ⟨⟨sql, i⟩, hmem, rfl⟩ := List.mem_map.1 hitem
    have hsql := hitems sql (List.fst_mem_of_mem_zipIdx hmem)
    exact of_pieces [.part sql, .fixed " AS ", .part (positionalAlias i)] rfl rfl
      (by simp [Piece.contents, hsql, assembled_positionalAlias])

/-- A clause is missing or starts with a blank. -/
theorem assembled_clauseText (ht : t.Templated) {keyword : String} {clause : Option Expr}
    (hkeyword : ∀ inner, Piece.closed [.fixed keyword, .part inner] = true)
    (hblank : keyword.toList.head? = some ' ')
    (hg : ∀ e, clause = some e → e.Supplied t.profile Given)
    (h : t.clauseText keyword clause = .ok sql) :
    Assembled Given sql ∧ (sql = "" ∨ sql.toList.head? = some ' ') := by
  obtain ⟨-, rfl⟩ | ⟨e, inner, rfl, hinner, rfl⟩ := clauseText_eq_ok.1 h
  · exact ⟨word rfl, .inl rfl⟩
  · refine ⟨of_pieces [.fixed keyword, .part inner] (hkeyword inner) rfl ?_, .inr ?_⟩
    · simpa [Piece.contents] using assembled_render ht (hg e rfl) hinner
    · simp [hblank]

theorem assembled_groupByText (ht : t.Templated) {keys : List Expr}
    (hg : ∀ e ∈ keys, e.Supplied t.profile Given) (h : t.groupByText keys = .ok sql) :
    Assembled Given sql ∧ (sql = "" ∨ sql.toList.head? = some ' ') := by
  obtain ⟨-, rfl⟩ | ⟨parts, -, hparts, rfl⟩ := groupByText_eq_ok.1 h
  · exact ⟨word rfl, .inl rfl⟩
  · have hkeys := forall_of_forall₂ (renderAll_eq_ok.1 hparts) fun e he _ =>
      assembled_render ht (hg e he)
    exact ⟨of_pieces [.fixed " GROUP BY ", .parts ", " parts] rfl rfl
      (by simpa [Piece.contents] using hkeys), .inr (by simp)⟩

theorem assembled_orderByText (ht : t.Templated) {keys : List (OrderKey Expr)}
    (hg : ∀ k ∈ keys, k.expr.Supplied t.profile Given) (h : t.orderByText keys = .ok sql) :
    Assembled Given sql ∧ (sql = "" ∨ sql.toList.head? = some ' ') := by
  obtain ⟨-, rfl⟩ | ⟨parts, -, hparts, rfl⟩ := orderByText_eq_ok.1 h
  · exact ⟨word rfl, .inl rfl⟩
  · have hkeys := assembled_renderKeys (fun k hk _ => assembled_render ht (hg k hk)) hparts
    exact ⟨of_pieces [.fixed " ORDER BY ", .parts ", " parts] rfl rfl
      (by simpa [Piece.contents] using hkeys), .inr (by simp)⟩

theorem assembled_clauses (ht : t.Templated) {s : Select} (hg : s.Supplied t.profile Given)
    (h : t.clauses s = .ok sql) : Assembled Given sql ∧ sql.toList.head? = some ' ' := by
  obtain ⟨filter, groupBy, having, orderBy, hfilter, hgroup, hhaving, horder, rfl⟩ :=
    clauses_eq_ok.1 h
  have htable : Assembled Given (" FROM " ++ t.tableText s.source) :=
    of_pieces [.fixed " FROM ", .part (t.tableText s.source)] rfl rfl
      (by simpa [Piece.contents] using assembled_tableText hg.source)
  obtain ⟨hfilter, hfilterBlank⟩ := assembled_clauseText ht (fun _ => rfl) rfl
    (fun e he => hg.expr (by simp [Select.expressions, he])) hfilter
  obtain ⟨hgroup, hgroupBlank⟩ := assembled_groupByText ht
    (fun e he => hg.expr (by simp [Select.expressions, he])) hgroup
  obtain ⟨hhaving, hhavingBlank⟩ := assembled_clauseText ht (fun _ => rfl) rfl
    (fun e he => hg.expr (by simp [Select.expressions, he])) hhaving
  obtain ⟨horder, horderBlank⟩ := assembled_orderByText ht
    (fun k hk => hg.expr (List.mem_append_right _ (List.mem_map_of_mem hk))) horder
  refine ⟨?_, by simp⟩
  exact (((htable.follow hfilter hfilterBlank).follow hgroup hgroupBlank).follow hhaving
    hhavingBlank).follow horder horderBlank

theorem assembled_innerQuery (ht : t.Templated) {s : Select} {request : InnerRequest}
    {inner : InnerQuery} (hg : s.Supplied t.profile Given)
    (h : t.innerQuery s request = .ok inner) : Assembled Given inner.sql := by
  obtain ⟨items, rest, hitems, hrest, rfl⟩ := innerQuery_eq_ok.1 h
  have hitems := assembled_selectItems ht hg hitems
  obtain ⟨hrest, hblank⟩ := assembled_clauses ht hg hrest
  have hlist : Assembled Given ("SELECT " ++ topText request ++ ", ".intercalate items) := by
    unfold topText
    cases request.top with
    | none =>
      exact of_pieces [.fixed "SELECT ", .fixed "", .parts ", " items] rfl rfl
        (by simpa [Piece.contents] using hitems)
    | some n =>
      dsimp only
      rw [← String.append_assoc, ← String.append_assoc]
      refine of_pieces [.fixed "SELECT ", .fixed "TOP ", .part (toString n.toNat), .fixed " ",
        .parts ", " items] rfl rfl ?_
      simp only [Piece.contents, List.forall_mem_cons]
      exact ⟨assembled_nat _, by simpa using hitems⟩
  exact .follow hlist hrest (.inr hblank)

theorem assembled_rowNumFirst {count : UInt64} {inner : InnerQuery}
    (h : Assembled Given inner.sql) :
    Assembled Given ((LimitPlan.rowNumFirst count).complete inner) := by
  have hname : Assembled Given limitSubselect := word rfl
  refine of_pieces [.fixed "SELECT ", .part limitSubselect, .fixed ".* FROM (",
    .part inner.sql, .fixed ") ", .part limitSubselect, .fixed " WHERE ROWNUM <= ",
    .part (toString count.toNat)] rfl rfl ?_
  simp only [Piece.contents, List.forall_mem_cons]
  exact ⟨hname, h, hname, assembled_nat _, by simp⟩

theorem assembled_rowNumWindow {offset upper : UInt64} {inner : InnerQuery}
    (h : Assembled Given inner.sql) :
    Assembled Given ((LimitPlan.rowNumWindow offset upper).complete inner) := by
  have hname : Assembled Given limitSubselect := word rfl
  have hnumber : Assembled Given rowNumColumn := word rfl
  have hcolumns : Assembled Given
      (", ".intercalate ((List.range inner.columnCount).map positionalAlias)) := by
    refine assembled_list fun text ht => ?_
    obtain ⟨i, -, rfl⟩ := List.mem_map.1 ht
    exact assembled_positionalAlias i
  refine of_pieces [.fixed "SELECT ", .part _, .fixed " FROM (SELECT ", .part limitSubselect,
    .fixed ".*, ROWNUM ", .part rowNumColumn, .fixed " FROM (", .part inner.sql, .fixed ") ",
    .part limitSubselect, .fixed " WHERE ROWNUM <= ", .part (toString upper.toNat),
    .fixed ") WHERE ", .part rowNumColumn, .fixed " > ", .part (toString offset.toNat)]
    rfl rfl ?_
  simp only [Piece.contents, List.forall_mem_cons]
  exact ⟨hcolumns, hname, hnumber, h, hname, assembled_nat _, hnumber, assembled_nat _, by simp⟩

theorem assembled_complete {strategy : LimitStrategy} {count : UInt64} {offset : Option UInt64}
    {plan : LimitPlan} {inner : InnerQuery} (h : strategy.plan count offset = .ok plan)
    (hinner : Assembled Given inner.sql) : Assembled Given (plan.complete inner) := by
  have hcount (n : UInt64) : Assembled Given (toString n.toNat) := assembled_nat n.toNat
  unfold LimitStrategy.plan at h
  split at h
  · cases h
    exact of_pieces [.part inner.sql, .fixed " LIMIT ", .part (toString count.toNat)] rfl rfl
      (by simp only [Piece.contents, List.forall_mem_cons]; exact ⟨hinner, hcount _, by simp⟩)
  · cases h
    refine of_pieces [.part inner.sql, .fixed " LIMIT ", .part _, .fixed " OFFSET ", .part _]
      rfl rfl ?_
    simp only [Piece.contents, List.forall_mem_cons]
    exact ⟨hinner, hcount _, hcount _, by simp⟩
  · cases h
    refine of_pieces [.part inner.sql, .fixed " FETCH FIRST ", .part _, .fixed " ROWS ONLY"]
      rfl rfl ?_
    simp only [Piece.contents, List.forall_mem_cons]
    exact ⟨hinner, hcount _, by simp⟩
  · cases h
    exact hinner
  · cases h
    exact assembled_rowNumFirst hinner
  · split at h
    · cases h
      exact assembled_rowNumWindow hinner
    · cases h
  · cases h
  · cases h

/-- The text of a query is assembled from its names and strings. -/
theorem assembled_generate (ht : t.Templated) {s : Select} (hg : s.Supplied t.profile Given)
    (h : t.generate s = .ok sql) : Assembled Given sql := by
  obtain ⟨-, inner, hinner, rfl⟩ | ⟨count, offset, plan, inner, -, hplan, hinner, rfl⟩ :=
    generate_eq_ok.1 h
  · exact assembled_innerQuery ht hg hinner
  · exact assembled_complete hplan (assembled_innerQuery ht hg hinner)

end Target

end RemoteQuery
