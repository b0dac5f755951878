import RemoteQuery.Proofs.JsonText
import RemoteQuery.Proofs.WrittenValues
import RemoteQuery.Query.JsonForm

/-!
# RemoteQuery.Proofs.JsonForms

The parts of a query that hold no expressions survive their JSON form: types,
columns, constants, tables and windows of rows.

* `…ofJson?_toJson` — the part is read back from its JSON form;
* `…exact_toJson` — the JSON form is one that is written without loss.

Two kinds of constants are special.  Doubles are left out: their JSON form does
not promise their value.  A decimal zero loses its sign.
-/

namespace RemoteQuery

/-! ## access to the parts of a value -/

namespace Json

@[simp] theorem uint32?_int (n : UInt32) : (int n.toNat).uint32? = some n := by
  have hlt := n.toNat_lt
  have hsize : UInt32.size = 2 ^ 32 := rfl
  rw [uint32?, intBetween?, if_pos (by omega)]
  simp

@[simp] theorem uint64?_int (n : UInt64) : (int n.toNat).uint64? = some n := by
  have hlt := n.toNat_lt
  have hsize : UInt64.size = 2 ^ 64 := rfl
  rw [uint64?, intBetween?, if_pos (by omega)]
  simp

@[simp] theorem word?_ofWord {α : Type} [Vocabulary α] (a : α) : (ofWord a).word? = some a :=
  Vocabulary.ofWord?_word a

@[simp] theorem case?_ofCase (name : String) (j : Json) : (ofCase name j).case? = some (name, j) :=
  rfl

/-- A case with content is no case without. -/
theorem unit?_ofCase (name : String) {j : Json} (h : j ≠ null) : (ofCase name j).unit? = none := by
  cases j with
  | null => exact absurd rfl h
  | bool | int | real | string | array | object => rfl

@[simp] theorem object?_object (fields : List (String × Json)) :
    (object fields).object? = some fields :=
  rfl

@[simp] theorem record?_object (names : List String) (least : Nat)
    (fields : List (String × Json)) : (object fields).record? names least = some fields :=
  rfl

@[simp] theorem bool?_bool (b : Bool) : (bool b).bool? = some b := rfl

@[simp] theorem string?_string (s : String) : (string s).string? = some s := rfl

@[simp] theorem find?_nil (name : String) : find? name [] = none := rfl

/-- A field is looked for behind the first one before it is looked for there. -/
@[simp] theorem find?_cons (name : String) (f : String × Json) (fields : List (String × Json)) :
    find? name (f :: fields) =
      (find? name fields).or (if name = f.1 then some f.2 else none) := by
  obtain ⟨n, j⟩ := f
  have hone : List.lookup name [(n, j)] = if name = n then some j else none := by
    by_cases h : name = n
    · rw [if_pos h, h, List.lookup_cons_self]
    · rw [if_neg h, List.lookup_cons, beq_eq_false_iff_ne.2 h, List.lookup_nil]
  rw [find?, List.reverse_cons, List.lookup_append, hone, find?]

/-- Items that are read back one by one are read back as a list. -/
theorem list?_ofList {α β : Type} {encode : α → Json} {decode : Json → Option β} {f : α → β}
    {l : List α} (h : ∀ a ∈ l, decode (encode a) = some (f a)) :
    (array (l.map encode)).list? decode = some (l.map f) := by
  rw [list?, array?, Option.bind_some]
  induction l with
  | nil => rfl
  | cons a l ih =>
    rw [List.forall_mem_cons] at h
    simp [List.mapM_cons, h.1, ih h.2]

/-- An optional field is read back, absent or not. -/
theorem optional?_ofOption {α β : Type} {encode : α → Json} {decode : Json → Option β}
    {f : α → β} {o : Option α} {name : String} {fields : List (String × Json)}
    (hfind : find? name fields = some (ofOption encode o))
    (hnull : ∀ a ∈ o, encode a ≠ null) (h : ∀ a ∈ o, decode (encode a) = some (f a)) :
    optional? decode name fields = some (o.map f) := by
  rw [optional?, hfind]
  cases o with
  | none => rfl
  | some a =>
    have ha := hnull a rfl
    have hread := h a rfl
    rw [ofOption]
    split
    next he => cases he
    next he => exact absurd (Option.some.inj he) ha
    next j he =>
      rw [← Option.some.inj he, hread]
      rfl

/-- An optional text is read back, absent or not. -/
theorem optional?_string {o : Option String} {name : String} {fields : List (String × Json)}
    (hfind : find? name fields = some (ofOption string o)) :
    optional? string? name fields = some o := by
  have hread : optional? string? name fields = some (o.map id) :=
    optional?_ofOption hfind (fun _ _ h => by cases h) fun _ _ => rfl
  rwa [Option.map_id] at hread

/-! ## values without loss -/

theorem exact_nat {n : Nat} (h : n < UInt64.size) : (int n).Exact := by
  have hmin : Int64.minValue.toInt = -(2 ^ 63) := rfl
  exact .int ⟨by omega, by omega⟩

@[simp] theorem exact_uint32 (n : UInt32) : (int n.toNat).Exact :=
  exact_nat (Nat.lt_trans n.toNat_lt (by decide))

@[simp] theorem exact_uint64 (n : UInt64) : (int n.toNat).Exact :=
  exact_nat n.toNat_lt

@[simp] theorem exact_ofWord {α : Type} [Vocabulary α] (a : α) : (ofWord a).Exact :=
  .string _

@[simp] theorem exact_ofCase {name : String} {j : Json} : (ofCase name j).Exact ↔ j.Exact := by
  simp [ofCase]

theorem exact_ofOption {α : Type} {encode : α → Json} {o : Option α}
    (h : ∀ a ∈ o, (encode a).Exact) : (ofOption encode o).Exact := by
  cases o with
  | none => exact exact_null
  | some a => exact h a rfl

@[simp] theorem exact_ofOption_string (o : Option String) : (ofOption string o).Exact :=
  exact_ofOption fun s _ => exact_string s

end Json

/-! ## types and columns -/

theorem CanonicalType.charset?_ofWord (c : Charset) :
    CanonicalType.charset? (.ofWord c) = some c :=
  Json.word?_ofWord c

/-- A type is read back. -/
theorem CanonicalType.ofJson?_toJson (t : CanonicalType) :
    CanonicalType.ofJson? t.toJson = some t := by
  cases t <;>
    simp [toJson, ofJson?, Json.tagged?, Json.required?, number, charset?_ofWord]

/-- A declared column is read back. -/
theorem ColumnMetadata.ofJson?_toJson (c : ColumnMetadata) :
    ColumnMetadata.ofJson? c.toJson = some c := by
  simp [toJson, ofJson?, Json.required?, CanonicalType.ofJson?_toJson]

/-- A column reference is read back. -/
theorem ColumnRef.ofJson?_toJson (c : ColumnRef) : ColumnRef.ofJson? c.toJson = some c := by
  rw [toJson, ofJson?, Json.record?_object, Option.bind_eq_bind, Option.bind_some,
    Json.optional?_string rfl]
  simp [Json.required?, ColumnMetadata.ofJson?_toJson]

theorem CanonicalType.exact_toJson (t : CanonicalType) : t.toJson.Exact := by
  cases t <;> simp [toJson, number]

theorem ColumnMetadata.exact_toJson (c : ColumnMetadata) : c.toJson.Exact := by
  simp [toJson, CanonicalType.exact_toJson]

theorem ColumnRef.exact_toJson (c : ColumnRef) : c.toJson.Exact := by
  simp [toJson, ColumnMetadata.exact_toJson]

/-! ## constants -/

/-- The flavour of an interval is read back. -/
theorem IntervalKind.ofJson?_toJson (k : IntervalKind) :
    IntervalKind.ofJson? k.toJson = some k := by
  cases k <;> simp [toJson, ofJson?, Json.required?]

namespace Literal

/-- The constant without the sign of a decimal zero. -/
def withoutZeroSign : Literal → Literal
  | exactNumeric d => exactNumeric d.withoutZeroSign
  | l => l

/-- A constant that is no double is read back. -/
theorem ofJson?_toJson {l : Literal} (h : ∀ x, l ≠ double x) :
    Literal.ofJson? l.toJson = some l.withoutZeroSign := by
  cases l with
  | double x => exact absurd rfl (h x)
  | null => rfl
  | bool b => rfl
  | exactNumeric d =>
    simp [toJson, ofJson?, Json.unit?_ofCase, Decimal.ofJson?, Decimal.ofText?_text,
      withoutZeroSign]
  | date d =>
    simp [toJson, ofJson?, Json.unit?_ofCase, Date.ofJson?, Date.ofText?_text, withoutZeroSign]
  | timestamp t =>
    simp [toJson, ofJson?, Json.unit?_ofCase, Timestamp.ofJson?, Timestamp.ofText?_text,
      withoutZeroSign]
  | string s => rfl
  | interval value kind =>
    simp [toJson, ofJson?, Json.unit?_ofCase, Json.required?, IntervalKind.ofJson?_toJson,
      withoutZeroSign]

end Literal

theorem IntervalKind.exact_toJson (k : IntervalKind) : k.toJson.Exact := by
  cases k <;> simp [toJson]

theorem Literal.exact_toJson (l : Literal) : l.toJson.Exact := by
  cases l with
  | double x =>
    rw [toJson, Json.exact_ofCase]
    split <;> simp
  | null | bool | exactNumeric | date | timestamp | string | interval =>
    simp [toJson, IntervalKind.exact_toJson]

theorem Literal.withoutZeroSign_eq_self {l : Literal}
    (h : ∀ d, l = exactNumeric d → ¬d.IsNegativeZero) : l.withoutZeroSign = l := by
  cases l with
  | exactNumeric d => rw [withoutZeroSign, d.withoutZeroSign_eq_self (h d rfl)]
  | null | bool | double | date | timestamp | string | interval => rfl

/-! ## tables and windows of rows -/

/-- A table is read back. -/
theorem TableRef.ofJson?_toJson (t : TableRef) : TableRef.ofJson? t.toJson = some t := by
  have hcolumns : (Json.ofList ColumnMetadata.toJson t.columns).list? ColumnMetadata.ofJson? =
      some (t.columns.map id) :=
    Json.list?_ofList fun c _ => c.ofJson?_toJson
  rw [List.map_id] at hcolumns
  rw [toJson, ofJson?, Json.record?_object, Option.bind_eq_bind, Option.bind_some,
    Json.optional?_string rfl, Json.optional?_string rfl, Json.optional?_string rfl]
  simp [Json.required?, Json.defaulted?, hcolumns]

/-- A window of rows is read back. -/
theorem RowLimit.ofJson?_toJson (l : RowLimit) : RowLimit.ofJson? l.toJson = some l := by
  have hcount {o : Option UInt64} {name : String} {fields : List (String × Json)}
      (hfind : Json.find? name fields = some (.ofOption countToJson o)) :
      Json.optional? Json.uint64? name fields = some (o.map id) :=
    Json.optional?_ofOption hfind (fun _ _ h => by cases h) fun n _ => Json.uint64?_int n
  rw [toJson, ofJson?, Json.record?_object, Option.bind_eq_bind, Option.bind_some, hcount rfl,
    hcount rfl]
  simp

theorem TableRef.exact_toJson (t : TableRef) : t.toJson.Exact := by
  simp [toJson, Json.ofList, ColumnMetadata.exact_toJson]

theorem RowLimit.exact_toJson (l : RowLimit) : l.toJson.Exact := by
  have hcount (o : Option UInt64) : (Json.ofOption countToJson o).Exact :=
    Json.exact_ofOption fun n _ => Json.exact_uint64 n
  simp [toJson, hcount]

end RemoteQuery
