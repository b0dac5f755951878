import RemoteQuery.Proofs.Rendering
import RemoteQuery.Query.Build
import Mathlib.Data.Nat.Basic

/-!
# RemoteQuery.Proofs.RowOrder

The order of rows that written ordering keys ask for.  A written key is read by
its ends, so its meaning comes from the text and not from how the text was made:
a direction with or without a place for absent values, or a choice between two
numbers by absence.  A list of keys compares two rows by the first key that tells
them apart.

* `WrittenKey.read?_text` — every key of a target is read back as what it says;
* `Profile.compare_sortKeys` — the keys of one item compare as the item asks;
* `Target.rowOrder_of_renderOrderBy` — so do the keys of a whole clause;
* `Target.absenceTest_iff_isDelimited` — the test inside a key on absence is the
  written `IS NULL` of the expression exactly where that needs no parentheses.
-/

namespace RemoteQuery

/-! ## comparing rows -/

section

variable {α : Type}

/-- A comparison in a direction. -/
def directed (ascending : Bool) (o : Ordering) : Ordering :=
  if ascending then o else o.swap

/-- Values by a comparison, and absent ones before or after all of them. -/
def withNulls (nullsLast : Bool) (cmp : α → α → Ordering) : Option α → Option α → Ordering
  | some a, some b => cmp a b
  | none, none => .eq
  | none, some _ => if nullsLast then .gt else .lt
  | some _, none => if nullsLast then .lt else .gt

/-- The first comparison that tells two rows apart. -/
def lexicographic (os : List Ordering) : Ordering :=
  os.foldr Ordering.then .eq

@[simp] theorem lexicographic_cons (o : Ordering) (os : List Ordering) :
    lexicographic (o :: os) = o.then (lexicographic os) :=
  rfl

theorem lexicographic_append (os ps : List Ordering) :
    lexicographic (os ++ ps) = (lexicographic os).then (lexicographic ps) := by
  induction os with
  | nil => rfl
  | cons o os ih => rw [List.cons_append, lexicographic_cons, lexicographic_cons, ih,
      Ordering.then_assoc]

variable [LinearOrder α]

/-- How a target compares nullable values in a direction when a key does not place absent ones:
greater or less than every value before the direction applies, or at one end whatever the
direction. -/
def NullSorting.compare (s : NullSorting) (ascending : Bool) (x y : Option α) : Ordering :=
  match s with
  | .high => directed ascending (withNulls true Ord.compare x y)
  | .low => directed ascending (withNulls false Ord.compare x y)
  | .atStart => withNulls false (fun a b => directed ascending (Ord.compare a b)) x y
  | .atEnd => withNulls true (fun a b => directed ascending (Ord.compare a b)) x y

/-- The comparison an item asks for: values in its direction, absent ones where it wants them. -/
def OrderKey.compare (k : OrderKey Expr) (x y : Option α) : Ordering :=
  withNulls k.nullsLast (fun a b => directed k.ascending (Ord.compare a b)) x y

/-- The default of a target puts absent values to the end `nullsLast` says. -/
theorem NullSorting.compare_eq (s : NullSorting) (ascending : Bool) (x y : Option α) :
    s.compare ascending x y =
      withNulls (s.nullsLast ascending) (fun a b => directed ascending (Ord.compare a b)) x y := by
  cases s <;> cases ascending <;> cases x <;> cases y <;> rfl

end

/-! ## written keys -/

/-- What a written ordering key says. -/
inductive WrittenKey where
  /-- A direction, and the place of absent values if it is stated. -/
  | value (sql : String) (ascending : Bool) (nullsLast : Option Bool)
  /-- Ascending by a number for absent values and another one for the rest. -/
  | choice (sql : String) (ifNull otherwise : Nat)

namespace WrittenKey

/-- The text of the expression a key is about. -/
def subject : WrittenKey → String
  | value sql _ _ | choice sql _ _ => sql

/-- The text in front of an ending. -/
def before? (text ending : String) : Option String :=
  if Text.endsWith text ending then
    some (String.ofList (text.toList.take (text.toList.length - ending.toList.length)))
  else none

/-- The text behind a beginning. -/
def after? (text front : String) : Option String :=
  if Text.beginsWith text front then some (String.ofList (text.toList.drop front.toList.length))
  else none

/-- The ends of keys on a value. -/
def valueEnds : List (String × Bool × Option Bool) :=
  [(" ASC", true, none), (" DESC", false, none),
   (" ASC NULLS FIRST", true, some false), (" ASC NULLS LAST", true, some true),
   (" DESC NULLS FIRST", false, some false), (" DESC NULLS LAST", false, some true)]

/-- The ends of keys that choose between two numbers. -/
def choiceEnds : List (String × Nat × Nat) :=
  [(" IS NULL THEN 0 ELSE 1 END", 0, 1), (" IS NULL THEN 1 ELSE 0 END", 1, 0)]

/-- A written key by its ends.  What stands between them is taken for the expression as a whole, by
convention: a target that binds `IS NULL` to the end of a condition tests less than that. -/
def read? (text : String) : Option WrittenKey :=
  (valueEnds.findSome? fun e => (before? text e.1).map (value · e.2.1 e.2.2)) <|>
    (after? text "CASE WHEN ").bind fun test =>
      choiceEnds.findSome? fun e => (before? test e.1).map (choice · e.2.1 e.2.2)

/-- How a key compares two rows in which its expression has the values `x` and `y`, on a target
with a default for absent values. -/
def compare {α : Type} [LinearOrder α] (s : NullSorting) : WrittenKey → Option α → Option α →
    Ordering
  | value _ ascending none, x, y => s.compare ascending x y
  | value _ ascending (some nullsLast), x, y =>
    withNulls nullsLast (fun a b => directed ascending (Ord.compare a b)) x y
  | choice _ ifNull otherwise, x, y =>
    Ord.compare (if x.isNone then ifNull else otherwise) (if y.isNone then ifNull else otherwise)

end WrittenKey

/-- What a key of a target says when it is written. -/
def SortKey.written : SortKey → WrittenKey
  | .value sql ascending nullsLast => .value sql ascending nullsLast
  | .absence sql true => .choice sql 1 0
  | .absence sql false => .choice sql 0 1

namespace WrittenKey

/-- Neither text is an end of the other. -/
def EndsApart (a b : String) : Prop :=
  ¬a.toList <:+ b.toList ∧ ¬b.toList <:+ a.toList

instance (a b : String) : Decidable (EndsApart a b) :=
  inferInstanceAs (Decidable (_ ∧ _))

theorem before?_append (sql ending : String) : before? (sql ++ ending) ending = some sql := by
  have hend : Text.endsWith (sql ++ ending) ending = true := by
    rw [Text.endsWith, String.toList_append]
    exact List.isSuffixOf_iff_suffix.2 (List.suffix_append _ _)
  rw [before?, if_pos hend]
  simp

/-- Of two ends of one text one is an end of the other, so a text has only one of two ends that lie
apart. -/
theorem before?_append_of_endsApart (sql : String) {ending other : String}
    (h : EndsApart other ending) : before? (sql ++ ending) other = none := by
  have hend : ¬Text.endsWith (sql ++ ending) other = true := by
    rw [Text.endsWith, String.toList_append, List.isSuffixOf_iff_suffix]
    intro hother
    have hending : ending.toList <:+ sql.toList ++ ending.toList := List.suffix_append _ _
    rcases List.suffix_or_suffix_of_suffix hother hending with hs | hs
    · exact h.1 hs
    · exact h.2 hs
  rw [before?, if_neg hend]

theorem after?_append (front sql : String) : after? (front ++ sql) front = some sql := by
  have hfront : Text.beginsWith (front ++ sql) front = true := by
    rw [Text.beginsWith, String.toList_append]
    exact List.isPrefixOf_iff_prefix.2 (List.prefix_append _ _)
  rw [after?, if_pos hfront]
  simp

section

variable {β γ : Type} {ends : List (String × β)} {ending : String} {b : β}

/-- Of ends that lie apart the one that a text has is found. -/
theorem findSome?_before (sql : String) (f : String → β → γ)
    (hapart : ends.Pairwise fun e e' => EndsApart e.1 e'.1) (hmem : (ending, b) ∈ ends) :
    (ends.findSome? fun e => (before? (sql ++ ending) e.1).map (f · e.2)) = some (f sql b) := by
  induction ends with
  | nil => exact absurd hmem List.not_mem_nil
  | cons e es ih =>
    obtain ⟨hhead, htail⟩ := List.pairwise_cons.1 hapart
    rcases List.mem_cons.1 hmem with rfl | hmem
    · rw [List.findSome?_cons_of_isSome] <;> simp [before?_append]
    · have hnone := before?_append_of_endsApart sql (hhead _ hmem)
      rw [List.findSome?_cons_of_isNone, ih htail hmem]
      simp [hnone]

theorem findSome?_before_eq_none (sql : String) (f : String → β → γ)
    (hapart : ∀ e ∈ ends, EndsApart e.1 ending) :
    (ends.findSome? fun e => (before? (sql ++ ending) e.1).map (f · e.2)) = none := by
  rw [List.findSome?_eq_none_iff]
  intro e he
  rw [before?_append_of_endsApart sql (hapart e he), Option.map_none]

end

/-- A text with an end of keys on a value is read as such a key. -/
theorem read?_value (sql : String) {ending : String} {ascending : Bool} {nullsLast : Option Bool}
    (hmem : (ending, ascending, nullsLast) ∈ valueEnds) :
    read? (sql ++ ending) = some (value sql ascending nullsLast) := by
  have hfound := findSome?_before sql (fun sql b => value sql b.1 b.2)
    (by decide +kernel : valueEnds.Pairwise fun e e' => EndsApart e.1 e'.1) hmem
  rw [read?, hfound]
  rfl

/-- A text with the front and an end of keys on absence is read as such a key. -/
theorem read?_choice (sql : String) {ending : String} {ifNull otherwise : Nat}
    (hmem : (ending, ifNull, otherwise) ∈ choiceEnds) :
    read? ("CASE WHEN " ++ sql ++ ending) = some (choice sql ifNull otherwise) := by
  have hvalue : ∀ e ∈ valueEnds, EndsApart e.1 ending := by
    have hall : ∀ c ∈ choiceEnds, ∀ e ∈ valueEnds, EndsApart e.1 c.1 := by decide +kernel
    exact hall _ hmem
  have hfound := findSome?_before sql (fun sql b => choice sql b.1 b.2)
    (by decide +kernel : choiceEnds.Pairwise fun e e' => EndsApart e.1 e'.1) hmem
  rw [read?, findSome?_before_eq_none _ (fun sql b => value sql b.1 b.2) hvalue,
    String.append_assoc, after?_append, Option.bind_some, hfound]
  rfl

/-- **The keys of a target are read back**: the text of a key says what the key is meant to say. -/
theorem read?_text (k : SortKey) : read? k.text = some k.written := by
  cases k with
  | value sql ascending nullsLast =>
    show read? (sql ++ _ ++ _) = _
    rw [String.append_assoc]
    refine read?_value sql ?_
    rcases ascending with _ | _ <;> rcases nullsLast with _ | _ | _ <;> decide
  | absence sql nullsLast =>
    cases nullsLast with
    | false => exact read?_choice sql (by decide)
    | true => exact read?_choice sql (by decide)

/-- How a written key compares two rows in which its expression has the values `x` and `y`; a text
that is no key tells no rows apart. -/
def compareText {α : Type} [LinearOrder α] (s : NullSorting) (text : String) (x y : Option α) :
    Ordering :=
  match read? text with
  | some k => k.compare s x y
  | none => .eq

theorem compareText_text {α : Type} [LinearOrder α] (s : NullSorting) (k : SortKey)
    (x y : Option α) : compareText s k.text x y = k.written.compare s x y := by
  rw [compareText, read?_text]

/-- A key on absence only tells an absent value from a present one. -/
theorem compare_absence {α : Type} [LinearOrder α] (s : NullSorting) (sql : String)
    (nullsLast : Bool) (x y : Option α) :
    (SortKey.absence sql nullsLast).written.compare s x y =
      withNulls nullsLast (fun _ _ => .eq) x y := by
  cases nullsLast <;> cases x <;> cases y <;> rfl

end WrittenKey

/-! ## the keys of one item -/

open WrittenKey

/-- Placing absent values first and comparing the others afterwards, wherever that puts the absent
ones. -/
theorem withNulls_then {α : Type} (nullsLast other : Bool) (cmp : α → α → Ordering)
    (x y : Option α) :
    (withNulls nullsLast (fun _ _ => .eq) x y).then (withNulls other cmp x y) =
      withNulls nullsLast cmp x y := by
  cases x <;> cases y <;> cases nullsLast <;> rfl

/-- **The keys of an item compare as the item asks**, whatever the default of the target and
whether or not it can place absent values in words. -/
theorem Profile.compare_sortKeys {α : Type} [LinearOrder α] (d : Profile) (sql : String)
    (k : OrderKey Expr) (x y : Option α) :
    lexicographic ((d.sortKeys sql k.ascending k.nullsLast).map fun key =>
      compareText d.nullSorting key.text x y) = k.compare x y := by
  simp only [compareText_text]
  by_cases hclause : d.nullOrderingClause = true
  · rw [sortKeys, if_pos hclause]
    exact Ordering.then_eq
  rw [sortKeys, if_neg hclause]
  have hvalue : (SortKey.value sql k.ascending none).written.compare d.nullSorting x y =
      withNulls (d.nullSorting.nullsLast k.ascending)
        (fun a b => directed k.ascending (Ord.compare a b)) x y :=
    NullSorting.compare_eq _ _ _ _
  by_cases hplace : d.nullSorting.nullsLast k.ascending = k.nullsLast
  · rw [if_pos hplace, List.map_singleton, lexicographic_cons, hvalue, hplace]
    exact Ordering.then_eq
  · rw [if_neg hplace, List.map_cons, List.map_singleton, lexicographic_cons, lexicographic_cons,
      compare_absence, hvalue, lexicographic, List.foldr_nil, Ordering.then_eq, withNulls_then]
    rfl

/-! ## the keys of a clause -/

namespace Target

/-- A text is a written key on an expression. -/
def IsKeyOn (t : Target) (e : Expr) (text : String) : Prop :=
  ∃ k, read? text = some k ∧ t.render .nested e = .ok k.subject

/-- Two rows by written keys, each with the expression it is on, given the value of every
expression on every row. -/
def compareByKeys {α Row : Type} [LinearOrder α] (t : Target) (keys : List (Expr × String))
    (value : Expr → Row → Option α) (a b : Row) : Ordering :=
  lexicographic (keys.map fun k =>
    compareText t.profile.nullSorting k.2 (value k.1 a) (value k.1 b))

/-- Two rows by the items of an ordering, one after the other. -/
def compareByItems {α Row : Type} [LinearOrder α] (items : List (OrderKey Expr))
    (value : Expr → Row → Option α) (a b : Row) : Ordering :=
  lexicographic (items.map fun k => k.compare (value k.expr a) (value k.expr b))

/-- The written keys of an item with its expression. -/
def keysOn (t : Target) (k : OrderKey Expr) (sql : String) : List (Expr × String) :=
  (t.keyTexts k sql).map fun text => (k.expr, text)

theorem map_snd_keysOn (t : Target) (k : OrderKey Expr) (sql : String) :
    (t.keysOn k sql).map Prod.snd = t.keyTexts k sql := by
  simp [keysOn, Function.comp_def]

theorem isKeyOn_of_mem_keysOn {t : Target} {k : OrderKey Expr} {sql : String}
    (h : t.render .nested k.expr = .ok sql) {key : Expr × String} (hkey : key ∈ t.keysOn k sql) :
    key.1 = k.expr ∧ t.IsKeyOn key.1 key.2 := by
  simp only [keysOn, keyTexts, List.mem_map] at hkey
  obtain ⟨_, ⟨key, hmem, rfl⟩, rfl⟩ := hkey
  have hsubject : key.written.subject = sql := by
    unfold Profile.sortKeys at hmem
    split at hmem
    · rw [List.mem_singleton.1 hmem]
      rfl
    split at hmem
    · rw [List.mem_singleton.1 hmem]
      rfl
    · rcases List.mem_pair.1 hmem with rfl | rfl
      · cases k.nullsLast <;> rfl
      · rfl
  exact ⟨rfl, key.written, read?_text key, by rw [hsubject, h]⟩

theorem compareByKeys_keysOn {α Row : Type} [LinearOrder α] (t : Target) (k : OrderKey Expr)
    (sql : String) (value : Expr → Row → Option α) (a b : Row) :
    t.compareByKeys (t.keysOn k sql) value a b =
      k.compare (value k.expr a) (value k.expr b) := by
  rw [← t.profile.compare_sortKeys sql k, compareByKeys, keysOn, keyTexts, List.map_map,
    List.map_map]
  rfl

/-- The keys of the first item decide before those of the others do. -/
theorem compareByKeys_append {α Row : Type} [LinearOrder α] (t : Target)
    (keys keys' : List (Expr × String)) (value : Expr → Row → Option α) (a b : Row) :
    t.compareByKeys (keys ++ keys') value a b =
      (t.compareByKeys keys value a b).then (t.compareByKeys keys' value a b) := by
  rw [compareByKeys, List.map_append, lexicographic_append]
  rfl

/-- The written keys of a clause can be told apart by item, and compare as the items ask. -/
theorem exists_keysOn {t : Target} {items : List (OrderKey Expr)} {texts : List String}
    (h : t.renderKeys items = .ok texts) :
    ∃ keys : List (Expr × String), keys.map Prod.snd = texts ∧
      (∀ k ∈ keys, (∃ i ∈ items, i.expr = k.1) ∧ t.IsKeyOn k.1 k.2) ∧
      ∀ (α Row : Type) [LinearOrder α] (value : Expr → Row → Option α) (a b : Row),
        t.compareByKeys keys value a b = compareByItems items value a b := by
  obtain ⟨parts, hparts, rfl⟩ := renderKeys_eq_ok.1 h
  clear h
  induction hparts with
  | nil => exact ⟨[], rfl, by simp, fun _ _ _ _ _ _ => rfl⟩
  | @cons item part items parts hitem _ ih =>
    obtain ⟨sql, hsql, rfl⟩ := hitem
    obtain ⟨keys, htexts, hkeys, hcompare⟩ := ih
    refine ⟨t.keysOn item sql ++ keys, ?_, ?_, ?_⟩
    · rw [List.map_append, map_snd_keysOn, htexts, List.flatten_cons]
    · intro key hkey
      rcases List.mem_append.1 hkey with hkey | hkey
      · obtain ⟨hexpr, hon⟩ := isKeyOn_of_mem_keysOn hsql hkey
        exact ⟨⟨item, List.mem_cons_self, hexpr.symm⟩, hon⟩
      · obtain ⟨⟨i, hi, hexpr⟩, hon⟩ := hkeys key hkey
        exact ⟨⟨i, List.mem_cons_of_mem _ hi, hexpr⟩, hon⟩
    · intro α Row _ value a b
      rw [compareByKeys_append, compareByKeys_keysOn, hcompare]
      rfl

/-- **Written keys realise the requested order.**  The clause is a list of written keys, each on the
expression of an item, and whatever nullable values the expressions have on two rows, the keys
compare the rows as the items ask: one item after the other, values in its direction and absent
ones at its end. -/
theorem rowOrder_of_renderOrderBy {t : Target} {items : List (OrderKey Expr)} {sql : String}
    (h : t.renderOrderBy items = .ok sql) :
    ∃ keys : List (Expr × String), t.renderKeys items = .ok (keys.map Prod.snd) ∧
      sql = ", ".intercalate (keys.map Prod.snd) ∧
      (∀ k ∈ keys, (∃ i ∈ items, i.expr = k.1) ∧ t.IsKeyOn k.1 k.2) ∧
      ∀ (α Row : Type) [LinearOrder α] (value : Expr → Row → Option α) (a b : Row),
        t.compareByKeys keys value a b = compareByItems items value a b := by
  simp only [renderOrderBy, bind_eq_ok, pure_eq_ok] at h
  obtain ⟨texts, htexts, rfl⟩ := h
  obtain ⟨keys, rfl, hkeys, hcompare⟩ := exists_keysOn htexts
  exact ⟨keys, htexts, rfl, hkeys, hcompare⟩

/-- Where absent values sort low and cannot be placed in words, ascending with absent values last
takes two keys and descending takes one; a row without a value comes after one that has it. -/
theorem rowOrder_absent_last :
    let x : Expr := .column ⟨"T", none, 0, ⟨"X", .date, "DATE"⟩⟩
    let y : Expr := .column ⟨"T", none, 1, ⟨"Y", .date, "DATE"⟩⟩
    let items := [x.asc true, y.desc true]
    let t : Target :=
      { profile := { name := "PLAIN", nullSorting := .low, nullOrderingClause := false } }
    t.renderOrderBy items = .ok "CASE WHEN T.X IS NULL THEN 1 ELSE 0 END, T.X ASC, T.Y DESC" ∧
    ∃ keys : List (Expr × String), t.renderKeys items = .ok (keys.map Prod.snd) ∧
      t.compareByKeys keys (fun _ (row : Option Nat) => row) none (some 7) = .gt := by
  intro x y items t
  have hsql : t.renderOrderBy items =
      .ok "CASE WHEN T.X IS NULL THEN 1 ELSE 0 END, T.X ASC, T.Y DESC" := by decide +kernel
  obtain ⟨keys, hkeys, _, _, hcompare⟩ := rowOrder_of_renderOrderBy hsql
  exact ⟨hsql, keys, hkeys, hcompare Nat (Option Nat) _ none (some 7)⟩

/-! ## the test inside a key on absence -/

/-- What a key on absence chooses between. -/
def choiceText (nullsLast : Bool) : String :=
  if nullsLast then " THEN 1 ELSE 0 END" else " THEN 0 ELSE 1 END"

/-- A written operand is the text itself exactly when the expression holds together; otherwise it
is longer by its parentheses. -/
theorem delimit_eq_iff (e : Expr) (sql : String) :
    e.delimit sql = sql ↔ e.isDelimited = true := by
  rw [Expr.delimit]
  constructor
  · intro h
    by_contra hd
    rw [if_neg hd] at h
    have hlength := congrArg String.length h
    simp only [String.length_append] at hlength
    have hparen : "(".length = 1 := rfl
    omega
  · intro h
    rw [if_pos h]

/-- **The key on absence tests the bare text of its expression**: that is the written `IS NULL` of
the expression exactly when the expression holds together beside an operator.  Of a comparison, a
negation and the like the parentheses are missing. -/
theorem absenceTest_iff_isDelimited {t : Target} {e : Expr} {ascending nullsLast : Bool}
    {sql : String} (hclause : t.profile.nullOrderingClause = false)
    (hplace : t.profile.nullSorting.nullsLast ascending ≠ nullsLast)
    (he : t.render .nested e = .ok sql) :
    ∃ test, t.render .nested (.isNull e false) = .ok test ∧
      t.renderKeys [⟨e, ascending, nullsLast⟩] =
        .ok ["CASE WHEN " ++ sql ++ " IS NULL" ++ choiceText nullsLast,
          sql ++ if ascending then " ASC" else " DESC"] ∧
      ("CASE WHEN " ++ sql ++ " IS NULL" ++ choiceText nullsLast =
        "CASE WHEN " ++ test ++ choiceText nullsLast ↔ e.isDelimited = true) := by
  have htest : t.render .nested (.isNull e false) = .ok (e.delimit sql ++ " IS NULL") :=
    render_isNull.2 ⟨_, renderOperand_eq_ok.2 ⟨sql, he, rfl⟩, rfl⟩
  have hkeys : t.profile.sortKeys sql ascending nullsLast =
      [.absence sql nullsLast, .value sql ascending none] := by
    rw [Profile.sortKeys, if_neg (by simp [hclause]), if_neg hplace]
  refine ⟨_, htest, ?_, ?_⟩
  · rw [renderKeys_eq_ok]
    refine ⟨_, .cons ⟨sql, he, rfl⟩ .nil, ?_⟩
    rw [keyTexts, hkeys]
    cases nullsLast <;> simp [SortKey.text, choiceText, String.append_assoc]
  · rw [← delimit_eq_iff e sql]
    simp only [← String.append_assoc, String.append_right_inj, String.append_left_inj]
    exact eq_comm

/-- The test for absence in the key of a comparison is left without parentheses, so it is not the
written `IS NULL` of the comparison. -/
theorem absenceTest_of_comparison :
    let x : Expr := .column ⟨"T", none, 0, ⟨"X", .date, "DATE"⟩⟩
    let y : Expr := .column ⟨"T", none, 1, ⟨"Y", .date, "DATE"⟩⟩
    let t : Target :=
      { profile := { name := "PLAIN", nullSorting := .low, nullOrderingClause := false } }
    ∃ test, t.render .nested (.isNull (x.eq y) false) = .ok test ∧
      t.renderKeys [(x.eq y).asc true] =
        .ok ["CASE WHEN T.X = T.Y IS NULL THEN 1 ELSE 0 END", "T.X = T.Y ASC"] ∧
      "CASE WHEN T.X = T.Y IS NULL THEN 1 ELSE 0 END" ≠
        "CASE WHEN " ++ test ++ " THEN 1 ELSE 0 END" := by
  intro x y t
  have he : t.render .nested (x.eq y) = .ok "T.X = T.Y" := by decide +kernel
  have hplace : t.profile.nullSorting.nullsLast true ≠ true := by decide
  obtain ⟨test, htest, hkeys, hiff⟩ := absenceTest_iff_isDelimited rfl hplace he
  exact ⟨test, htest, hkeys, fun heq => absurd (hiff.1 heq) (by decide)⟩

end Target

end RemoteQuery
