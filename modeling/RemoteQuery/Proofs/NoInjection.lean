import RemoteQuery.Proofs.Assembly
import RemoteQuery.Proofs.DialectTemplates

/-!
# RemoteQuery.Proofs.NoInjection

No name and no value of a query can leave its quotes: the text of a query is
lexically safe whatever they are.  The one exception is a name between brackets,
which must not hold a closing bracket, since nothing is escaped there.

* `Target.safe_render` — the text of an expression closes what it opens;
* `Target.safe_generate` — so does the text of a query;
* `Dialect.lexicallySafe_of_generate` — queries are lexically safe in every dialect.
-/

namespace RemoteQuery

open Lexing

/-! ## names -/

/-- Whether a name can stand between the quotes of a style: any name can where the closing quote is
doubled. -/
def QuoteStyle.Admits (style : QuoteStyle) (name : String) : Prop :=
  style = .bracket → style.closing ∉ name.toList

instance (style : QuoteStyle) (name : String) : Decidable (style.Admits name) :=
  inferInstanceAs (Decidable (style = .bracket → style.closing ∉ name.toList))

/-- Every column in an expression has names that the style admits. -/
def Expr.NamesAdmitted (style : QuoteStyle) (e : Expr) : Prop :=
  ∀ c, (Expr.column c).Occurs e → style.Admits c.qualifier ∧ style.Admits c.metadata.name

/-- Every name in a query is one that the style admits. -/
structure Select.NamesAdmitted (style : QuoteStyle) (s : Select) : Prop where
  source : ∀ name ∈ s.source.names, style.Admits name
  columns : ∀ c, s.Occurs (.column c) → style.Admits c.qualifier ∧ style.Admits c.metadata.name

theorem Expr.NamesAdmitted.child {style : QuoteStyle} {e child : Expr}
    (h : e.NamesAdmitted style) (hc : child ∈ e.children) : child.NamesAdmitted style :=
  fun c hocc => h c (.inside hc hocc)

/-- The names of an expression are its own and those of the expressions that stand directly in it.
-/
theorem Expr.namesAdmitted_iff {style : QuoteStyle} {e : Expr} : e.NamesAdmitted style ↔
    (∀ c, e = .column c → style.Admits c.qualifier ∧ style.Admits c.metadata.name) ∧
      ∀ child ∈ e.children, child.NamesAdmitted style := by
  constructor
  · intro h
    exact ⟨fun c hc => h c (hc ▸ .here), fun child hchild => h.child hchild⟩
  · rintro ⟨hroot, hchildren⟩ c hocc
    obtain hc | ⟨child, hchild, hocc⟩ := Expr.occurs_iff.1 hocc
    · exact hroot c hc.symm
    · exact hchildren child hchild c hocc

variable {style : QuoteStyle}

theorem safe_quote {name : String} (h : style.Admits name) : Safe style (style.quote name) := by
  intro depth
  have hopen : step style (.at depth) style.opening =
      some ⟨some (identifierQuoting style), ⟨depth, .calm⟩⟩ := by
    cases style <;> rfl
  have hs : Settled style (some (identifierQuoting style)) ⟨depth, .calm⟩ := by
    intro q hq
    cases hq
    exact ⟨.inr rfl, rfl⟩
  rw [QuoteStyle.quote, Text.enclose, String.toList_ofList, List.cons_append, run, hopen,
    Option.bind_some]
  cases style with
  | double => exact run_double hs rfl name.toList
  | backtick => exact run_double hs rfl name.toList
  | bracket =>
    rw [run_append, QuoteStyle.escape, run_inner (h rfl)]
    rfl

theorem safe_of_isSimple {h : CaseHandling} {name : String} (hs : h.isSimple name = true) :
    Safe style name := by
  refine safe_of_plain fun c hc => ?_
  obtain hc | rfl := CaseHandling.alphanum_of_isSimple hs c hc
  · exact isPlain_of_isAlphanum hc
  · rfl

theorem Profile.safe_identifierText {d : Profile} {name : String}
    (h : d.quoteStyle.Admits name) : Safe d.quoteStyle (d.identifierText name) := by
  unfold identifierText
  split
  next hbare =>
    rw [Bool.and_eq_true] at hbare
    exact safe_of_isSimple hbare.1
  next => exact safe_quote h

/-! ## texts -/

/-- Admitted names and any strings are written as texts that close what they open. -/
theorem Expr.NamesAdmitted.supplied {d : Profile} {e : Expr} (h : e.NamesAdmitted d.quoteStyle) :
    e.Supplied d (Safe d.quoteStyle) :=
  ⟨fun c hc => ⟨Profile.safe_identifierText (h c hc).1, Profile.safe_identifierText (h c hc).2⟩,
    fun _ value _ _ => safe_stringLiteral value⟩

theorem Select.NamesAdmitted.supplied {d : Profile} {s : Select}
    (h : s.NamesAdmitted d.quoteStyle) : s.Supplied d (Safe d.quoteStyle) where
  source name hname := Profile.safe_identifierText (h.source name hname)
  columns c hc := ⟨Profile.safe_identifierText (h.columns c hc).1,
    Profile.safe_identifierText (h.columns c hc).2⟩
  strings value _ := safe_stringLiteral value

namespace Target

variable {t : Target} {p : Position} {sql : String}

/-- The text of an expression closes what it opens. -/
theorem safe_render (ht : t.Templated) {e : Expr} (hn : e.NamesAdmitted t.profile.quoteStyle)
    (h : t.render p e = .ok sql) : Safe t.profile.quoteStyle sql :=
  (assembled_render ht hn.supplied h).safe fun _ h => h

theorem safe_renderOperand (ht : t.Templated) {e : Expr}
    (hn : e.NamesAdmitted t.profile.quoteStyle) (h : t.renderOperand e = .ok sql) :
    Safe t.profile.quoteStyle sql :=
  (assembled_renderOperand ht hn.supplied h).safe fun _ h => h

/-- The text of a query closes what it opens. -/
theorem safe_generate (ht : t.Templated) {s : Select} (hn : s.NamesAdmitted t.profile.quoteStyle)
    (h : t.generate s = .ok sql) : Safe t.profile.quoteStyle sql :=
  (assembled_generate ht hn.supplied h).safe fun _ h => h

end Target

/-- **No injection**: a query is lexically safe in every built dialect, whatever its names and
values are, as long as no name between brackets holds a closing bracket. -/
theorem Dialect.lexicallySafe_of_generate {d : Dialect} {p : Properties} {t : Target} {s : Select}
    {sql : String} (ht : d.target p = .ok t) (hn : s.NamesAdmitted t.profile.quoteStyle)
    (h : d.generate p s = .ok sql) : LexicallySafe t.profile.quoteStyle sql := by
  have hsql := (generate_eq_ok_iff ht).1 h
  exact lexicallySafe_of_run (Target.safe_generate (templated ht) hn hsql 0)

/-- Quotes, comments and the end of a statement in names and in a value, where brackets quote. -/
theorem Dialect.lexicallySafe_hostile_names :
    sqlServer.generate {} ((Select.ofTable { name := "a;[b--", aliasName := some "x'y" }).withFilter
      (.compare .equal (.column ⟨"a;[b--", some "x'y", 0, ⟨"it's /* (", .date, "DATE"⟩⟩)
        (.literal (.string "'; DROP TABLE t; --")))) =
      .ok "SELECT * FROM [a;[b--] [x'y] WHERE [x'y].[it's /* (] = '''; DROP TABLE t; --'" ∧
    LexicallySafe .bracket
      "SELECT * FROM [a;[b--] [x'y] WHERE [x'y].[it's /* (] = '''; DROP TABLE t; --'" := by
  generalize hs : (Select.ofTable { name := "a;[b--", aliasName := some "x'y" }).withFilter _ = s
  have htarget : sqlServer.target {} = .ok SqlServer.target := rfl
  have hsql : sqlServer.generate {} s =
      .ok "SELECT * FROM [a;[b--] [x'y] WHERE [x'y].[it's /* (] = '''; DROP TABLE t; --'" := by
    subst hs
    decide +kernel
  refine ⟨hsql, lexicallySafe_of_generate htarget ⟨?_, ?_⟩ hsql⟩
  · subst hs
    decide +kernel
  · rintro c ⟨e, he, hocc⟩
    subst hs
    obtain rfl := List.mem_singleton.1 he
    obtain hc | ⟨x, hx, hocc⟩ := Expr.occurs_iff.1 hocc
    · cases hc
    · obtain rfl | rfl : x = _ ∨ x = _ := by simpa [Expr.children, Expr.operands] using hx
      · obtain hc | ⟨_, hx, -⟩ := Expr.occurs_iff.1 hocc
        · cases hc
          decide +kernel
        · cases hx
      · obtain hc | ⟨_, hx, -⟩ := Expr.occurs_iff.1 hocc
        · cases hc
        · cases hx

end RemoteQuery
