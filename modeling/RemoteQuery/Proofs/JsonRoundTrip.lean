import RemoteQuery.Proofs.Expression
import RemoteQuery.Proofs.JsonForms

/-!
# RemoteQuery.Proofs.JsonRoundTrip

A query survives its JSON form: what is read from the text that is written for it
is the query itself.

* `Expr.ofJsonWithin?_step` — an expression is read back when what stands directly
  in it is, one level further down;
* `Expr.ofJson?_toJson`, `Select.ofJson?_toJson` — expressions and queries are read
  back from their JSON forms;
* `Select.ofJson?_parse?_text` — queries are read back from the text.

No double may stand in the query.  What is read back has no signed decimal zeros:
`withoutZeroSigns` says so of expressions and queries, and it changes nothing where
there are none.
-/

namespace RemoteQuery

/-! ## expressions -/

namespace Json

theorem height_pos (j : Json) : 0 < j.height := by
  cases j <;> simp [height]

theorem height_le_of_mem_items {j : Json} {js : List Json} (h : j ∈ js) :
    j.height ≤ itemsHeight js := by
  induction js with
  | nil => exact absurd h List.not_mem_nil
  | cons j' js ih =>
    rw [itemsHeight]
    obtain rfl | h := List.mem_cons.1 h
    · exact Nat.le_max_left _ _
    · exact Nat.le_trans (ih h) (Nat.le_max_right _ _)

end Json

namespace Expr

theorem toJsons_eq_map (es : List Expr) : toJsons es = es.map toJson := by
  induction es with
  | nil => rfl
  | cons e es ih => rw [toJsons, ih, List.map_cons]

/-- The JSON form of an ordering key. -/
def keyToJson (k : OrderKey Expr) : Json :=
  .object [("expr", toJson k.expr), ("ascending", .bool k.ascending),
    ("nulls_last", .bool k.nullsLast)]

theorem keysToJson_eq_map (ks : List (OrderKey Expr)) : keysToJson ks = ks.map keyToJson := by
  induction ks with
  | nil => rfl
  | cons k ks ih => rw [keysToJson, ih, List.map_cons, keyToJson]

mutual

/-- The expression without the signs of its decimal zeros. -/
def withoutZeroSigns : Expr → Expr
  | column c => column c
  | literal l => literal l.withoutZeroSign
  | and es => and (allWithoutZeroSigns es)
  | or es => or (allWithoutZeroSigns es)
  | not e => not (withoutZeroSigns e)
  | compare op l r => compare op (withoutZeroSigns l) (withoutZeroSigns r)
  | like e p => like (withoutZeroSigns e) (withoutZeroSigns p)
  | likeEscape e p x =>
    likeEscape (withoutZeroSigns e) (withoutZeroSigns p) (withoutZeroSigns x)
  | between e l h => between (withoutZeroSigns e) (withoutZeroSigns l) (withoutZeroSigns h)
  | inList e es => inList (withoutZeroSigns e) (allWithoutZeroSigns es)
  | isNull e negated => isNull (withoutZeroSigns e) negated
  | scalar f args => scalar f (allWithoutZeroSigns args)
  | aggregate f args distinct orderBy separator =>
    aggregate f (allWithoutZeroSigns args) distinct (keysWithoutZeroSigns orderBy) separator
termination_by structural e => e

/-- The expressions without the signs of their decimal zeros. -/
def allWithoutZeroSigns : List Expr → List Expr
  | [] => []
  | e :: es => withoutZeroSigns e :: allWithoutZeroSigns es
termination_by structural es => es

/-- The ordering keys without the signs of their decimal zeros. -/
def keysWithoutZeroSigns : List (OrderKey Expr) → List (OrderKey Expr)
  | [] => []
  | ⟨e, ascending, nullsLast⟩ :: ks =>
    ⟨withoutZeroSigns e, ascending, nullsLast⟩ :: keysWithoutZeroSigns ks
termination_by structural ks => ks

end

theorem allWithoutZeroSigns_eq_map (es : List Expr) :
    allWithoutZeroSigns es = es.map withoutZeroSigns := by
  induction es with
  | nil => rfl
  | cons e es ih => rw [allWithoutZeroSigns, ih, List.map_cons]

/-- The ordering key without the signs of its decimal zeros. -/
def keyWithoutZeroSigns (k : OrderKey Expr) : OrderKey Expr :=
  ⟨k.expr.withoutZeroSigns, k.ascending, k.nullsLast⟩

theorem keysWithoutZeroSigns_eq_map (ks : List (OrderKey Expr)) :
    keysWithoutZeroSigns ks = ks.map keyWithoutZeroSigns := by
  induction ks with
  | nil => rfl
  | cons k ks ih => rw [keysWithoutZeroSigns, ih, List.map_cons, keyWithoutZeroSigns]

/-- No double stands in the expression. -/
def NoDouble (e : Expr) : Prop :=
  ∀ x, ¬Occurs (.literal (.double x)) e

theorem NoDouble.child {c e : Expr} (h : NoDouble e) (hc : c ∈ e.children) : NoDouble c :=
  fun x hx => h x (.inside hc hx)

theorem height_le_toJsons {e : Expr} {es : List Expr} (h : e ∈ es) :
    e.toJson.height ≤ Json.itemsHeight (toJsons es) := by
  rw [toJsons_eq_map]
  exact Json.height_le_of_mem_items (List.mem_map_of_mem h)

theorem height_lt_keysToJson {k : OrderKey Expr} {ks : List (OrderKey Expr)} (h : k ∈ ks) :
    k.expr.toJson.height < Json.itemsHeight (keysToJson ks) := by
  have hkey : k.expr.toJson.height < (keyToJson k).height := by
    simp only [keyToJson, Json.height, Json.fieldsHeight]
    omega
  rw [keysToJson_eq_map]
  exact Nat.lt_of_lt_of_le hkey (Json.height_le_of_mem_items (List.mem_map_of_mem h))

/-- What stands directly in an expression nests less in its JSON form. -/
theorem height_child_lt {c e : Expr} (hc : c ∈ e.children) :
    c.toJson.height < e.toJson.height := by
  cases e with
  | column | literal => simp [children, operands] at hc
  | and es | or es | scalar f es =>
    have hle := height_le_toJsons (show c ∈ es from hc)
    simp only [toJson, Json.ofCase, Json.height, Json.fieldsHeight]
    omega
  | not e | isNull e negated =>
    obtain rfl : c = e := by simpa [children, operands] using hc
    simp only [toJson, Json.ofCase, Json.height, Json.fieldsHeight]
    omega
  | compare op a b | like a b =>
    obtain rfl | rfl : c = a ∨ c = b := by simpa [children, operands] using hc
    all_goals
      simp only [toJson, Json.ofCase, Json.height, Json.fieldsHeight]
      omega
  | likeEscape a b d | between a b d =>
    obtain rfl | rfl | rfl : c = a ∨ c = b ∨ c = d := by simpa [children, operands] using hc
    all_goals
      simp only [toJson, Json.ofCase, Json.height, Json.fieldsHeight]
      omega
  | inList a es =>
    simp only [toJson, Json.ofCase, Json.height, Json.fieldsHeight]
    obtain rfl | hmem := List.mem_cons.1 hc
    · omega
    · have hle := height_le_toJsons hmem
      omega
  | aggregate f args distinct orderBy separator =>
    simp only [toJson, Json.ofCase, Json.height, Json.fieldsHeight]
    obtain hmem | hmem := List.mem_append.1 hc
    · have hle := height_le_toJsons hmem
      omega
    · obtain ⟨k, hk, rfl⟩ := List.mem_map.1 hmem
      have hlt := height_lt_keysToJson hk
      omega

theorem toJson_ne_null (e : Expr) : e.toJson ≠ .null := by
  cases e <;> simp [toJson, Json.ofCase]

/-- An ordering key is read back when its expression is. -/
theorem keyOfJson?_keyToJson {expr? : Json → Option Expr} {k : OrderKey Expr}
    (h : expr? k.expr.toJson = some k.expr.withoutZeroSigns) :
    keyOfJson? expr? (keyToJson k) = some (keyWithoutZeroSigns k) := by
  simp [keyOfJson?, keyToJson, Json.required?, h, keyWithoutZeroSigns]

/-- One level: an expression is read back when what stands directly in it is. -/
theorem ofJsonWithin?_step {e : Expr} (hdouble : NoDouble e) {levels : Nat}
    (h : ∀ c ∈ e.children, ofJsonWithin? levels c.toJson = some c.withoutZeroSigns) :
    ofJsonWithin? (levels + 1) e.toJson = some e.withoutZeroSigns := by
  cases e with
  | column ref => simp [ofJsonWithin?, toJson, ColumnRef.ofJson?_toJson, withoutZeroSigns]
  | literal l =>
    have hread := Literal.ofJson?_toJson fun x (hx : l = .double x) => hdouble x (hx ▸ .here)
    simp [ofJsonWithin?, toJson, hread, withoutZeroSigns]
  | and es | or es =>
    have hread := Json.list?_ofList (l := es) h
    simp [ofJsonWithin?, predicateOfJson?, toJson, toJsons_eq_map, hread, withoutZeroSigns,
      allWithoutZeroSigns_eq_map]
  | not | isNull | compare | like | between =>
    simp only [children, operands, List.forall_mem_cons] at h
    simp [ofJsonWithin?, predicateOfJson?, toJson, Json.required?, Json.optional?, h,
      withoutZeroSigns]
  | likeEscape a b c =>
    simp only [children, operands, List.forall_mem_cons] at h
    have hescape : Json.optional? (ofJsonWithin? levels) "escape"
        [("expr", toJson a), ("pattern", toJson b), ("escape", toJson c)] =
          some (some c.withoutZeroSigns) :=
      Json.optional?_ofOption (o := some c) rfl (fun x _ => toJson_ne_null x)
        (fun x hx => by cases hx; exact h.2.2.1)
    simp [ofJsonWithin?, predicateOfJson?, toJson, Json.required?, h, hescape, withoutZeroSigns]
  | inList a es =>
    simp only [children, operands, List.forall_mem_cons] at h
    have hread := Json.list?_ofList (l := es) h.2
    simp [ofJsonWithin?, predicateOfJson?, toJson, Json.required?, h.1, toJsons_eq_map, hread,
      withoutZeroSigns, allWithoutZeroSigns_eq_map]
  | scalar f args =>
    have hread := Json.list?_ofList (l := args) h
    simp [ofJsonWithin?, scalarOfJson?, toJson, Json.required?, toJsons_eq_map, hread,
      withoutZeroSigns, allWithoutZeroSigns_eq_map]
  | aggregate f args distinct orderBy separator =>
    simp only [children, List.forall_mem_append, List.forall_mem_map] at h
    have hargs := Json.list?_ofList (l := args) h.1
    have hkeys := Json.list?_ofList (l := orderBy) fun k hk => keyOfJson?_keyToJson (h.2 k hk)
    have hseparator : Json.optional? Json.string? "separator"
        [("function", .ofWord f), ("args", .array (args.map toJson)), ("distinct", .bool distinct),
          ("order_by", .array (orderBy.map keyToJson)),
          ("separator", .ofOption .string separator)] = some separator :=
      Json.optional?_string rfl
    simp [ofJsonWithin?, aggregateOfJson?, toJson, Json.required?, Json.defaulted?,
      toJsons_eq_map, keysToJson_eq_map, hargs, hkeys, hseparator, withoutZeroSigns,
      allWithoutZeroSigns_eq_map, keysWithoutZeroSigns_eq_map]

/-- An expression without doubles is read back with every bound on the levels that its JSON form
keeps. -/
theorem ofJsonWithin?_toJson {e : Expr} (hdouble : NoDouble e) {levels : Nat}
    (hlevels : e.toJson.height ≤ levels) :
    ofJsonWithin? levels e.toJson = some e.withoutZeroSigns := by
  induction e using childInduction generalizing levels with
  | step e ih =>
    obtain ⟨m, rfl⟩ : ∃ m, levels = m + 1 := by
      have hpos := e.toJson.height_pos
      exact ⟨levels - 1, by omega⟩
    refine ofJsonWithin?_step hdouble fun c hc => ih c hc (hdouble.child hc) ?_
    have hlt := height_child_lt hc
    omega

/-- Reading an expression needs no more levels than its JSON form has. -/
theorem ofJson?_toJson {e : Expr} (hdouble : NoDouble e) :
    Expr.ofJson? e.toJson = some e.withoutZeroSigns :=
  ofJsonWithin?_toJson hdouble (Nat.le_refl _)

end Expr

/-! ## queries -/

namespace SelectList

/-- The select list without the signs of its decimal zeros. -/
def withoutZeroSigns : SelectList → SelectList
  | exprs es => exprs (es.map Expr.withoutZeroSigns)
  | l => l

/-- A select list without doubles is read back. -/
theorem ofJson?_toJson {l : SelectList} (h : ∀ e ∈ l.items, e.NoDouble) :
    SelectList.ofJson? l.toJson = some l.withoutZeroSigns := by
  cases l with
  | star => rfl
  | anyColumn => rfl
  | exprs es =>
    have hread : (Json.array (es.map Expr.toJson)).list? Expr.ofJson? =
        some (es.map Expr.withoutZeroSigns) :=
      Json.list?_ofList fun e he => Expr.ofJson?_toJson (h e he)
    simp [toJson, ofJson?, Expr.toJsons_eq_map, Json.unit?_ofCase, hread, withoutZeroSigns]

end SelectList

namespace Select

/-- The query without the signs of its decimal zeros. -/
def withoutZeroSigns (s : Select) : Select where
  selectList := s.selectList.withoutZeroSigns
  source := s.source
  filter := s.filter.map Expr.withoutZeroSigns
  groupBy := s.groupBy.map Expr.withoutZeroSigns
  having := s.having.map Expr.withoutZeroSigns
  orderBy := s.orderBy.map Expr.keyWithoutZeroSigns
  limit := s.limit

/-- A query without doubles is read back. -/
theorem ofJson?_toJson {s : Select} (h : ∀ e ∈ s.expressions, e.NoDouble) :
    Select.ofJson? s.toJson = some s.withoutZeroSigns := by
  simp only [expressions, List.forall_mem_append, List.forall_mem_map] at h
  obtain ⟨⟨⟨⟨hlist, hfilter⟩, hgroups⟩, hhaving⟩, horder⟩ := h
  have hclause {o : Option Expr} (ho : ∀ e ∈ o.toList, e.NoDouble) {name : String}
      {fields : List (String × Json)}
      (hfind : Json.find? name fields = some (.ofOption Expr.toJson o)) :
      Json.optional? Expr.ofJson? name fields = some (o.map Expr.withoutZeroSigns) :=
    Json.optional?_ofOption hfind (fun e _ => e.toJson_ne_null) fun e he =>
      Expr.ofJson?_toJson (ho e (by simpa using he))
  have hlimit {fields : List (String × Json)}
      (hfind : Json.find? "limit" fields = some (.ofOption RowLimit.toJson s.limit)) :
      Json.optional? RowLimit.ofJson? "limit" fields = some (s.limit.map id) :=
    Json.optional?_ofOption hfind (fun _ _ h => by cases h) fun l _ => l.ofJson?_toJson
  have hgroupBy : (Json.array (s.groupBy.map Expr.toJson)).list? Expr.ofJson? =
      some (s.groupBy.map Expr.withoutZeroSigns) :=
    Json.list?_ofList fun e he => Expr.ofJson?_toJson (hgroups e he)
  have horderBy : (Json.array (s.orderBy.map Expr.keyToJson)).list? OrderKey.ofJson? =
      some (s.orderBy.map Expr.keyWithoutZeroSigns) :=
    Json.list?_ofList fun k hk => Expr.keyOfJson?_keyToJson (Expr.ofJson?_toJson (horder k hk))
  rw [toJson, ofJson?, Json.record?_object, Option.bind_eq_bind, Option.bind_some,
    hclause hfilter rfl, hclause hhaving rfl, hlimit rfl]
  simp [Json.required?, Json.defaulted?, SelectList.ofJson?_toJson hlist,
    TableRef.ofJson?_toJson, Expr.toJsons_eq_map, Expr.keysToJson_eq_map, hgroupBy, horderBy,
    withoutZeroSigns]

end Select

/-! ## values without loss -/

theorem Expr.exact_keyToJson {k : OrderKey Expr} (h : k.expr.toJson.Exact) :
    (keyToJson k).Exact := by
  simp [keyToJson, h]

/-- No fraction stands in the JSON form of an expression, and every integer is a word. -/
theorem Expr.exact_toJson (e : Expr) : e.toJson.Exact := by
  induction e with
  | column ref => simp [toJson, ColumnRef.exact_toJson]
  | literal l => simp [toJson, Literal.exact_toJson]
  | and es ih | or es ih | scalar f es ih => simpa [toJson, toJsons_eq_map] using ih
  | not e ih | isNull e negated ih => simp [toJson, ih]
  | compare op a b iha ihb | like a b iha ihb => simp [toJson, iha, ihb]
  | likeEscape a b c iha ihb ihc | between a b c iha ihb ihc => simp [toJson, iha, ihb, ihc]
  | inList e es ih ihs => simpa [toJson, toJsons_eq_map, ih] using ihs
  | aggregate f args distinct orderBy separator iha ihk =>
    have hkeys : ∀ k ∈ orderBy, (keyToJson k).Exact := fun k hk => exact_keyToJson (ihk k hk)
    simpa [toJson, toJsons_eq_map, keysToJson_eq_map] using ⟨iha, hkeys⟩

theorem SelectList.exact_toJson (l : SelectList) : l.toJson.Exact := by
  cases l <;> simp [toJson, Expr.toJsons_eq_map, Expr.exact_toJson]

theorem Select.exact_toJson (s : Select) : s.toJson.Exact := by
  have hclause (o : Option Expr) : (Json.ofOption Expr.toJson o).Exact :=
    Json.exact_ofOption fun e _ => e.exact_toJson
  have hlimit : (Json.ofOption RowLimit.toJson s.limit).Exact :=
    Json.exact_ofOption fun l _ => l.exact_toJson
  have hkeys : ∀ k ∈ s.orderBy, (Expr.keyToJson k).Exact := fun k _ =>
    Expr.exact_keyToJson k.expr.exact_toJson
  simpa [toJson, SelectList.exact_toJson, TableRef.exact_toJson, Expr.toJsons_eq_map,
    Expr.keysToJson_eq_map, Expr.exact_toJson, hclause, hlimit] using hkeys

/-! ## signed zeros -/

namespace Expr

theorem map_withoutZeroSigns_eq_self {l : List Expr}
    (h : ∀ e ∈ l, e.withoutZeroSigns = e) : l.map withoutZeroSigns = l :=
  (List.map_congr_left h).trans (List.map_id _)

theorem map_keyWithoutZeroSigns_eq_self {ks : List (OrderKey Expr)}
    (h : ∀ k ∈ ks, k.expr.withoutZeroSigns = k.expr) : ks.map keyWithoutZeroSigns = ks := by
  have hkey : ∀ k ∈ ks, keyWithoutZeroSigns k = id k := by
    intro k hk
    rw [keyWithoutZeroSigns, h k hk]
    rfl
  exact (List.map_congr_left hkey).trans (List.map_id _)

/-- Without signed zeros there is no sign to lose. -/
theorem withoutZeroSigns_eq_self {e : Expr}
    (h : ∀ d, Occurs (.literal (.exactNumeric d)) e → ¬d.IsNegativeZero) :
    e.withoutZeroSigns = e := by
  induction e using childInduction with
  | step e ih =>
    have hchild : ∀ c ∈ e.children, c.withoutZeroSigns = c := fun c hc =>
      ih c hc fun d hd => h d (.inside hc hd)
    cases e with
    | column ref => rfl
    | literal l =>
      rw [withoutZeroSigns, Literal.withoutZeroSign_eq_self fun d hd => h d (hd ▸ .here)]
    | and es | or es | scalar f es =>
      rw [withoutZeroSigns, allWithoutZeroSigns_eq_map,
        map_withoutZeroSigns_eq_self (l := es) hchild]
    | not | isNull | compare | like | likeEscape | between =>
      simp only [children, operands, List.forall_mem_cons] at hchild
      simp [withoutZeroSigns, hchild]
    | inList a es =>
      obtain ⟨ha, hes⟩ := List.forall_mem_cons.1 hchild
      rw [withoutZeroSigns, allWithoutZeroSigns_eq_map, ha, map_withoutZeroSigns_eq_self hes]
    | aggregate f args distinct orderBy separator =>
      simp only [children, List.forall_mem_append, List.forall_mem_map] at hchild
      rw [withoutZeroSigns, allWithoutZeroSigns_eq_map, keysWithoutZeroSigns_eq_map,
        map_withoutZeroSigns_eq_self hchild.1, map_keyWithoutZeroSigns_eq_self hchild.2]

end Expr

theorem SelectList.withoutZeroSigns_eq_self {l : SelectList}
    (h : ∀ e ∈ l.items, e.withoutZeroSigns = e) : l.withoutZeroSigns = l := by
  cases l with
  | star | anyColumn => rfl
  | exprs es => rw [withoutZeroSigns, Expr.map_withoutZeroSigns_eq_self (l := es) h]

namespace Select

theorem withoutZeroSigns_eq_self {s : Select}
    (h : ∀ d, s.Occurs (.literal (.exactNumeric d)) → ¬d.IsNegativeZero) :
    s.withoutZeroSigns = s := by
  have hexpr : ∀ e ∈ s.expressions, e.withoutZeroSigns = e := fun e he =>
    Expr.withoutZeroSigns_eq_self fun d hd => h d ⟨e, he, hd⟩
  simp only [expressions, List.forall_mem_append, List.forall_mem_map] at hexpr
  obtain ⟨⟨⟨⟨hlist, hfilter⟩, hgroups⟩, hhaving⟩, horder⟩ := hexpr
  have hclause {o : Option Expr} (ho : ∀ e ∈ o.toList, e.withoutZeroSigns = e) :
      o.map Expr.withoutZeroSigns = o := by
    cases o with
    | none => rfl
    | some e => rw [Option.map_some, ho e (by simp)]
  rw [withoutZeroSigns, SelectList.withoutZeroSigns_eq_self hlist, hclause hfilter,
    hclause hhaving, Expr.map_withoutZeroSigns_eq_self hgroups,
    Expr.map_keyWithoutZeroSigns_eq_self horder]

/-- **The JSON form of a query loses nothing**: the text that is written for a query without
doubles, if it nests no deeper than what is read, is read as that query, up to the signs of decimal
zeros. -/
theorem ofJson?_parse?_text {s : Select} (hdouble : ∀ x, ¬s.Occurs (.literal (.double x)))
    (hdepth : s.toJson.depth ≤ 127) :
    (Json.parse? s.toJson.text).bind Select.ofJson? = some s.withoutZeroSigns ∧
      ((∀ d, s.Occurs (.literal (.exactNumeric d)) → ¬d.IsNegativeZero) →
        s.withoutZeroSigns = s) := by
  have hread : Select.ofJson? s.toJson = some s.withoutZeroSigns :=
    ofJson?_toJson fun e he x hx => hdouble x ⟨e, he, hx⟩
  rw [Json.parse?_text s.exact_toJson hdepth, Option.bind_some]
  exact ⟨hread, withoutZeroSigns_eq_self⟩

/-- A number column of a table with a schema. -/
def orderNumber : ColumnRef :=
  ⟨"ORDERS", none, 0, ⟨"ID", .decimal 10 0, "INTEGER"⟩⟩

/-- A query with a constant, a list of distinct values in order and a window of rows. -/
def orderNumbers : Select where
  selectList := .exprs [.aggregate .groupConcat [.column orderNumber] true
    [⟨.column orderNumber, false, true⟩] (some "|\n")]
  source := { schema := some "SALES", name := "ORDERS", columns := [orderNumber.metadata] }
  filter := some (.compare .greater (.column orderNumber)
    (.literal (.exactNumeric ⟨true, 150, 2, by decide, by decide⟩)))
  limit := some ⟨some 3, none⟩

/-- That query is read back from its text. -/
theorem orderNumbers_read_back :
    (∀ x, ¬orderNumbers.Occurs (.literal (.double x))) ∧ orderNumbers.toJson.depth ≤ 127 ∧
      (Json.parse? orderNumbers.toJson.text).bind Select.ofJson? = some orderNumbers := by
  have hcolumn : ∀ x, Expr.Occurs x (.column orderNumber) → ∀ l, x ≠ .literal l :=
    Expr.forall_occurs_iff.2 ⟨by simp, by simp [Expr.children, Expr.operands]⟩
  have hconstant : ∀ l, orderNumbers.Occurs (.literal l) →
      l = .exactNumeric ⟨true, 150, 2, by decide, by decide⟩ := by
    rintro l ⟨e, he, hl⟩
    simp only [orderNumbers, expressions, SelectList.items, List.mem_append, List.mem_singleton,
      Option.toList_some, Option.toList_none, List.map_nil, List.not_mem_nil, or_false] at he
    obtain rfl | rfl := he
    · obtain h | ⟨c, hc, hl⟩ := Expr.occurs_iff.1 hl
      · cases h
      · obtain rfl : c = .column orderNumber := by simpa [Expr.children] using hc
        exact absurd rfl (hcolumn _ hl l)
    · obtain h | ⟨c, hc, hl⟩ := Expr.occurs_iff.1 hl
      · cases h
      · simp only [Expr.children, Expr.operands, List.mem_cons, List.not_mem_nil, or_false] at hc
        obtain rfl | rfl := hc
        · exact absurd rfl (hcolumn _ hl l)
        · obtain h | ⟨c, hc, -⟩ := Expr.occurs_iff.1 hl
          · exact Expr.literal.inj h
          · simp [Expr.children, Expr.operands] at hc
  have hdouble : ∀ x, ¬orderNumbers.Occurs (.literal (.double x)) := by
    intro x hx
    cases hconstant _ hx
  have hzero : ∀ d, orderNumbers.Occurs (.literal (.exactNumeric d)) → ¬d.IsNegativeZero := by
    intro d hd hneg
    cases hconstant _ hd
    exact absurd hneg.2 (by decide)
  have hdepth : orderNumbers.toJson.depth ≤ 127 := by decide
  have hread := ofJson?_parse?_text hdouble hdepth
  exact ⟨hdouble, hdepth, hread.1.trans (congrArg some (hread.2 hzero))⟩

end Select

end RemoteQuery
