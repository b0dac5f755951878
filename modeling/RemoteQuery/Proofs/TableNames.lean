import RemoteQuery.Proofs.Identifiers
import RemoteQuery.Proofs.NoInjection
import RemoteQuery.Proofs.StarList

/-!
# RemoteQuery.Proofs.TableNames

The text of a table determines the table, as far as a target writes it.

A reader finds the parts of the text by splitting it at dots and at the blank in
front of an alias, outside of quotes only, and takes the quotes off the parts.
`Passes` says that a stretch of text holds no separator for such a reader; quoted
names pass whatever they hold, bare ones since they are words.

* `splitOutside_intercalate` — parts that hold no separator are found again;
* `Target.readTable?_tableText` — the parts of a table are read back;
* `Target.tableText_determines` — tables with the same text are the same.
-/

namespace RemoteQuery

/-! ## splitting outside of quotes -/

/-- Whether the text after a character stands inside of quotes. -/
def QuoteStyle.insideAfter (style : QuoteStyle) (inside : Bool) (c : Char) : Bool :=
  if inside then c != style.closing else c == style.opening

/-- The parts of a text between the separators that stand outside of quotes. -/
def splitOutside (style : QuoteStyle) (separator : Char) : Bool → List Char → List (List Char)
  | _, [] => [[]]
  | inside, c :: cs =>
    if inside = false ∧ c = separator then [] :: splitOutside style separator false cs
    else (splitOutside style separator (style.insideAfter inside c) cs).modifyHead (c :: ·)

/-- A stretch of text without a separator outside of quotes, from inside or outside of quotes to
inside or outside: splitting leaves it whole. -/
def Passes (style : QuoteStyle) (separator : Char) (before after : Bool) (cs : List Char) : Prop :=
  ∀ rest, splitOutside style separator before (cs ++ rest) =
    (splitOutside style separator after rest).modifyHead (cs ++ ·)

section

variable {style : QuoteStyle} {separator : Char} {before between after inside : Bool}
  {xs ys cs : List Char}

theorem Passes.nil (inside : Bool) : Passes style separator inside inside [] := by
  intro rest
  have hid : (fun part : List Char => [] ++ part) = id := rfl
  rw [List.nil_append, hid, List.modifyHead_id, id]

theorem Passes.append (hx : Passes style separator before between xs)
    (hy : Passes style separator between after ys) :
    Passes style separator before after (xs ++ ys) := by
  intro rest
  have hcomp : (fun part => xs ++ ys ++ part) = (xs ++ ·) ∘ (ys ++ ·) := by
    funext part
    exact List.append_assoc xs ys part
  rw [List.append_assoc, hx, hy, List.modifyHead_modifyHead, hcomp]

theorem passes_char {c : Char} (h : inside = true ∨ c ≠ separator) :
    Passes style separator inside (style.insideAfter inside c) [c] := by
  intro rest
  have hpart : ¬(inside = false ∧ c = separator) := by
    rintro ⟨rfl, hc⟩
    exact h.elim Bool.false_ne_true fun hne => hne hc
  rw [List.singleton_append, splitOutside, if_neg hpart]
  rfl

/-- One more character at the front. -/
theorem Passes.cons {c : Char} (hc : inside = true ∨ c ≠ separator)
    (h : Passes style separator (style.insideAfter inside c) after cs) :
    Passes style separator inside after (c :: cs) :=
  (passes_char hc).append h

/-! ### names -/

/-- Outside of quotes, text passes that holds neither a separator nor an opening quote. -/
theorem passes_outside (h : ∀ c ∈ cs, c ≠ separator ∧ c ≠ style.opening) :
    Passes style separator false false cs := by
  induction cs with
  | nil => exact .nil false
  | cons c cs ih =>
    rw [List.forall_mem_cons] at h
    have hafter : style.insideAfter false c = false := by simp [QuoteStyle.insideAfter, h.1.2]
    refine .cons (.inr h.1.1) ?_
    rw [hafter]
    exact ih h.2

/-- Inside of quotes, text passes that holds no closing quote. -/
theorem passes_inside (h : style.closing ∉ cs) : Passes style separator true true cs := by
  induction cs with
  | nil => exact .nil true
  | cons c cs ih =>
    rw [List.mem_cons, not_or] at h
    have hafter : style.insideAfter true c = true := by
      simp [QuoteStyle.insideAfter, Ne.symm h.1]
    refine .cons (.inl rfl) ?_
    rw [hafter]
    exact ih h.2

/-- Inside of quotes that open as they close, doubled text passes: the first half of a doubled quote
leaves the quotes and the second half enters them again. -/
theorem passes_double (hsame : style.opening = style.closing) (hsep : style.closing ≠ separator)
    (cs : List Char) : Passes style separator true true (Text.double style.closing cs) := by
  have hleave : style.insideAfter true style.closing = false := by simp [QuoteStyle.insideAfter]
  have henter : style.insideAfter false style.closing = true := by
    simp [QuoteStyle.insideAfter, hsame]
  induction cs with
  | nil => exact .nil true
  | cons c cs ih =>
    rw [Text.double]
    split
    next =>
      refine .cons (.inl rfl) ?_
      rw [hleave]
      refine .cons (.inr hsep) ?_
      rw [henter]
      exact ih
    next hc =>
      have hafter : style.insideAfter true c = true := by simp [QuoteStyle.insideAfter, hc]
      refine .cons (.inl rfl) ?_
      rw [hafter]
      exact ih

theorem passes_escape {name : String} (h : style.Admits name) (hsep : style.closing ≠ separator) :
    Passes style separator true true (style.escape name.toList) := by
  cases style with
  | double => exact passes_double rfl hsep name.toList
  | backtick => exact passes_double rfl hsep name.toList
  | bracket => exact passes_inside (h rfl)

/-- A quoted name passes. -/
theorem passes_quote {name : String} (h : style.Admits name) (hopen : style.opening ≠ separator)
    (hclose : style.closing ≠ separator) :
    Passes style separator false false (style.quote name).toList := by
  have henter : style.insideAfter false style.opening = true := by simp [QuoteStyle.insideAfter]
  have hleave : style.insideAfter true style.closing = false := by simp [QuoteStyle.insideAfter]
  have hend : Passes style separator true false [style.closing] := by
    rw [← hleave]
    exact passes_char (.inl rfl)
  rw [QuoteStyle.quote, Text.enclose, String.toList_ofList, List.cons_append]
  refine .cons (.inr hopen) ?_
  rw [henter]
  exact (passes_escape h hclose).append hend

/-! ### lists of parts -/

theorem splitOutside_of_passes (h : Passes style separator false false cs) :
    splitOutside style separator false cs = [cs] := by
  have hall := h []
  rw [List.append_nil] at hall
  rw [hall]
  simp [splitOutside]

theorem splitOutside_append (h : Passes style separator false false cs) (rest : List Char) :
    splitOutside style separator false (cs ++ separator :: rest) =
      cs :: splitOutside style separator false rest := by
  rw [h, splitOutside, if_pos ⟨rfl, rfl⟩]
  simp

/-- Parts without a separator are found again between the separators. -/
theorem splitOutside_intercalate {parts : List (List Char)} (hne : parts ≠ [])
    (h : ∀ part ∈ parts, Passes style separator false false part) :
    splitOutside style separator false ([separator].intercalate parts) = parts := by
  induction parts with
  | nil => exact absurd rfl hne
  | cons part parts ih =>
    rw [List.forall_mem_cons] at h
    cases parts with
    | nil => rw [List.intercalate_singleton, splitOutside_of_passes h.1]
    | cons part' parts =>
      rw [List.intercalate_cons_cons, List.append_assoc, List.singleton_append,
        splitOutside_append h.1, ih (List.cons_ne_nil _ _) h.2]

/-- Joined parts pass where the parts and what joins them do. -/
theorem Passes.intercalate {joint : List Char} {parts : List (List Char)}
    (hjoint : Passes style separator false false joint)
    (h : ∀ part ∈ parts, Passes style separator false false part) :
    Passes style separator false false (joint.intercalate parts) := by
  induction parts with
  | nil => exact .nil false
  | cons part parts ih =>
    rw [List.forall_mem_cons] at h
    cases parts with
    | nil => rw [List.intercalate_singleton]; exact h.1
    | cons part' parts =>
      rw [List.intercalate_cons_cons]
      exact (h.1.append hjoint).append (ih h.2)

end

/-! ## tables -/

/-- What the text of a table says. -/
structure WrittenTable where
  catalog : Option String
  schema : Option String
  name : String
  aliasName : Option String
deriving DecidableEq

/-- Every name in the text of a table. -/
def WrittenTable.names (w : WrittenTable) : List String :=
  w.catalog.toList ++ w.schema.toList ++ w.name :: w.aliasName.toList

namespace Profile

/-- What a target writes of a table: the qualifiers it asks for, the name and the alias. -/
def writtenTable (d : Profile) (table : TableRef) : WrittenTable where
  catalog := if d.qualifiesCatalog then table.catalog else none
  schema := if d.qualifiesSchema then table.schema else none
  name := table.name
  aliasName := table.aliasName

/-- Two tables of which a target writes the same agree on the name, on the alias, and on the
qualifiers that the target asks for. -/
theorem writtenTable_eq_iff {d : Profile} {a b : TableRef} :
    d.writtenTable a = d.writtenTable b ↔
      (d.qualifiesCatalog = true → a.catalog = b.catalog) ∧
      (d.qualifiesSchema = true → a.schema = b.schema) ∧
      a.name = b.name ∧ a.aliasName = b.aliasName := by
  cases hc : d.qualifiesCatalog <;> cases hs : d.qualifiesSchema <;>
    simp [writtenTable, hc, hs]

/-- An identifier, with quotes or without. -/
def readIdentifier (d : Profile) (part : List Char) : String :=
  (d.quoteStyle.unquote? (String.ofList part)).getD (String.ofList part)

/-- A name after its qualifiers.  One qualifier is the schema if the target writes schemas; an empty
part between a catalog and a name stands for the schema that is left out. -/
def readQualified? (d : Profile) (aliasName : Option String) :
    List (List Char) → Option WrittenTable
  | [name] => some ⟨none, none, d.readIdentifier name, aliasName⟩
  | [qualifier, name] =>
    if d.qualifiesSchema then
      some ⟨none, some (d.readIdentifier qualifier), d.readIdentifier name, aliasName⟩
    else some ⟨some (d.readIdentifier qualifier), none, d.readIdentifier name, aliasName⟩
  | [catalog, schema, name] =>
    some ⟨some (d.readIdentifier catalog),
      if schema = [] then none else some (d.readIdentifier schema),
      d.readIdentifier name, aliasName⟩
  | _ => none

/-- The parts of the text of a table: it is split at the blank in front of an alias and at dots,
outside of quotes. -/
def readTable? (d : Profile) (sql : String) : Option WrittenTable :=
  match splitOutside d.quoteStyle ' ' false sql.toList with
  | [qualified] => d.readQualified? none (splitOutside d.quoteStyle '.' false qualified)
  | [qualified, aliasName] =>
    d.readQualified? (some (d.readIdentifier aliasName))
      (splitOutside d.quoteStyle '.' false qualified)
  | _ => none

variable {d : Profile} {name : String}

@[simp] theorem readIdentifier_identifierText (d : Profile) (name : String) :
    d.readIdentifier (d.identifierText name).toList = name := by
  rw [readIdentifier, String.ofList_toList, getD_unquote?_identifierText]

/-- A written identifier is not empty, so it is not taken for a schema that is left out. -/
theorem toList_identifierText_ne_nil (d : Profile) (name : String) :
    (d.identifierText name).toList ≠ [] := by
  obtain ⟨c, cs, hcons, -⟩ := d.identifierText_eq_cons name
  rw [hcons]
  exact List.cons_ne_nil c cs

/-- A written identifier holds no dot and no blank outside of quotes. -/
theorem passes_identifierText {separator : Char} (hsep : separator = '.' ∨ separator = ' ')
    (h : d.quoteStyle.Admits name) :
    Passes d.quoteStyle separator false false (d.identifierText name).toList := by
  have hopen : d.quoteStyle.opening ≠ separator := by
    obtain rfl | rfl := hsep <;> cases d.quoteStyle <;> decide
  have hclose : d.quoteStyle.closing ≠ separator := by
    obtain rfl | rfl := hsep <;> cases d.quoteStyle <;> decide
  by_cases hbare : d.ReadsBare name
  · rw [identifierText_of_readsBare hbare]
    refine passes_outside fun c hc => ?_
    have hword := hbare.word c hc
    constructor
    · rintro rfl
      revert hword
      obtain rfl | rfl := hsep <;> decide
    · rintro rfl
      revert hword
      cases d.quoteStyle <;> decide
  · rw [identifierText_of_not_readsBare hbare]
    exact passes_quote h hopen hclose

/-- The parts of a name between dots. -/
def nameParts (d : Profile) (w : WrittenTable) : List String :=
  (match w.catalog, w.schema with
    | some catalog, some schema => [d.identifierText catalog, d.identifierText schema]
    | some catalog, none =>
      if d.qualifiesSchema then [d.identifierText catalog, ""] else [d.identifierText catalog]
    | none, some schema => [d.identifierText schema]
    | none, none => []) ++ [d.identifierText w.name]

theorem eq_identifierText_of_mem_nameParts {w : WrittenTable} {part : String}
    (h : part ∈ d.nameParts w) : part = "" ∨ ∃ name ∈ w.names, part = d.identifierText name := by
  obtain ⟨catalog, schema, name, aliasName⟩ := w
  cases catalog <;> cases schema <;> grind [nameParts, WrittenTable.names]

theorem passes_nameParts {separator : Char} (hsep : separator = '.' ∨ separator = ' ')
    {w : WrittenTable} (h : ∀ name ∈ w.names, d.quoteStyle.Admits name) :
    ∀ part ∈ (d.nameParts w).map String.toList, Passes d.quoteStyle separator false false part := by
  rintro _ hmem
  obtain ⟨part, hpart, rfl⟩ := List.mem_map.1 hmem
  obtain rfl | ⟨name, hname, rfl⟩ := eq_identifierText_of_mem_nameParts hpart
  · exact .nil false
  · exact passes_identifierText hsep (h name hname)

/-- The parts of a name are read back. -/
theorem readQualified?_nameParts {w : WrittenTable}
    (hschema : w.schema ≠ none → d.qualifiesSchema = true) :
    d.readQualified? w.aliasName ((d.nameParts w).map String.toList) = some w := by
  obtain ⟨catalog, schema, name, aliasName⟩ := w
  cases catalog with
  | none =>
    cases schema with
    | none => simp [nameParts, readQualified?]
    | some schema => simp [nameParts, readQualified?, hschema]
  | some catalog =>
    cases schema with
    | none => cases hq : d.qualifiesSchema <;> simp [nameParts, readQualified?, hq]
    | some schema =>
      have hpresent := d.toList_identifierText_ne_nil schema
      simp [nameParts, readQualified?, -String.toList_eq_nil_iff, hpresent]

/-- The names between dots and the alias after a blank are found again. -/
theorem readTable?_of_toList_eq {w : WrittenTable} {sql : String}
    (hsql : sql.toList = ['.'].intercalate ((d.nameParts w).map String.toList) ++
      w.aliasName.elim [] fun a => ' ' :: (d.identifierText a).toList)
    (hschema : w.schema ≠ none → d.qualifiesSchema = true)
    (h : ∀ name ∈ w.names, d.quoteStyle.Admits name) : d.readTable? sql = some w := by
  have hdots : splitOutside d.quoteStyle '.' false
      (['.'].intercalate ((d.nameParts w).map String.toList)) = (d.nameParts w).map String.toList :=
    splitOutside_intercalate (by simp [nameParts]) (passes_nameParts (.inl rfl) h)
  have hdot : Passes d.quoteStyle ' ' false false ['.'] := by
    refine passes_outside fun c hc => ?_
    rw [List.mem_singleton.1 hc]
    cases d.quoteStyle <;> decide
  have hblank := hdot.intercalate (passes_nameParts (.inr rfl) h)
  have hread := readQualified?_nameParts hschema
  rw [readTable?, hsql]
  cases ha : w.aliasName with
  | none =>
    rw [Option.elim_none, List.append_nil, splitOutside_of_passes hblank]
    simp only [hdots]
    rw [← ha, hread]
  | some a =>
    have hadmits : d.quoteStyle.Admits a := h a (by simp [WrittenTable.names, ha])
    rw [Option.elim_some, splitOutside_append hblank,
      splitOutside_of_passes (passes_identifierText (.inr rfl) hadmits)]
    simp only [hdots, readIdentifier_identifierText]
    rw [← ha, hread]

end Profile

namespace Target

variable {t : Target} {a b : TableRef}

theorem toList_tableText (t : Target) (table : TableRef) :
    (t.tableText table).toList =
      ['.'].intercalate ((t.profile.nameParts (t.profile.writtenTable table)).map String.toList) ++
        table.aliasName.elim [] fun a => ' ' :: (t.profile.identifierText a).toList := by
  have hdot : ".".toList = ['.'] := rfl
  rw [tableText, String.toList_append, String.toList_intercalate, hdot]
  congr 1
  cases table.aliasName <;> simp

/-- The text of a table is read back as what it says. -/
theorem readTable?_tableText
    (h : ∀ name ∈ (t.profile.writtenTable a).names, t.profile.quoteStyle.Admits name) :
    t.profile.readTable? (t.tableText a) = some (t.profile.writtenTable a) := by
  refine Profile.readTable?_of_toList_eq (t.toList_tableText a) (fun hsome => ?_) h
  by_contra hq
  exact hsome (if_neg hq)

theorem tableText_of_writtenTable_eq (h : t.profile.writtenTable a = t.profile.writtenTable b) :
    t.tableText a = t.tableText b := by
  have halias : a.aliasName = b.aliasName := (Profile.writtenTable_eq_iff.1 h).2.2.2
  rw [← String.toList_inj, toList_tableText, toList_tableText, h, halias]

/-- **The text of a table determines the table.**  Splitting it outside of quotes and taking the
quotes off gives back the qualifiers that the target asks for, the name and the alias, where an
empty part stands for a schema left out; and two tables have the same text exactly when they agree
on all of these. -/
theorem tableText_determines
    (ha : ∀ name ∈ (t.profile.writtenTable a).names, t.profile.quoteStyle.Admits name)
    (hb : ∀ name ∈ (t.profile.writtenTable b).names, t.profile.quoteStyle.Admits name) :
    t.profile.readTable? (t.tableText a) = some (t.profile.writtenTable a) ∧
      (t.tableText a = t.tableText b ↔
        (t.profile.qualifiesCatalog = true → a.catalog = b.catalog) ∧
        (t.profile.qualifiesSchema = true → a.schema = b.schema) ∧
        a.name = b.name ∧ a.aliasName = b.aliasName) := by
  have hread := readTable?_tableText ha
  refine ⟨hread, ?_⟩
  rw [← Profile.writtenTable_eq_iff]
  refine ⟨fun htext => ?_, tableText_of_writtenTable_eq⟩
  rw [htext, readTable?_tableText hb] at hread
  exact (Option.some.inj hread).symm

/-- A schema left out is told from one without a name, whatever the names around it hold. -/
theorem tableText_empty_schema :
    Dialect.SqlServer.profile.readTable? "[a.b]..[c d] [e[f]" =
        some ⟨some "a.b", none, "c d", some "e[f"⟩ ∧
      Dialect.SqlServer.target.tableText ⟨some "a.b", none, "c d", some "e[f", []⟩ ≠
        Dialect.SqlServer.target.tableText ⟨some "a.b", some "", "c d", some "e[f", []⟩ := by
  obtain ⟨hread, hsame⟩ := tableText_determines (t := Dialect.SqlServer.target)
    (a := ⟨some "a.b", none, "c d", some "e[f", []⟩)
    (b := ⟨some "a.b", some "", "c d", some "e[f", []⟩) (by decide) (by decide)
  have htext : Dialect.SqlServer.target.tableText ⟨some "a.b", none, "c d", some "e[f", []⟩ =
      "[a.b]..[c d] [e[f]" := by
    decide +kernel
  rw [htext] at hread
  exact ⟨hread, fun heq => nomatch (hsame.1 heq).2.1 rfl⟩

end Target

end RemoteQuery
