import RemoteQuery.Proofs.Layout
import RemoteQuery.Proofs.NoInjection
import RemoteQuery.Proofs.QuotedInPlace

/-!
# RemoteQuery.Proofs.StatementReading

Statements in the eyes of a target to which a backslash in a string escapes the
next character.  The writer doubles quotes and leaves backslashes alone, so the
target may see the end of a string at another place.  It reads a statement as it
was written exactly if the backslashes in every one of its strings pair up.

* `LaidOut.eq_of_written_eq` — a statement has one list of tokens;
* `ReadInPlace` — every token ends where it was written to end;
* `LaidOut.readInPlace_iff` — the condition for it;
* `Dialect.stringLiteral_ends_iff` — strings and statements of the dialects in
  which a backslash escapes.
-/

namespace RemoteQuery

open Lexing Token Text

variable {style : QuoteStyle}

/-! ## tokens in place -/

/-- A token at the front of a text, where a backslash is a character like any other. -/
def Token.read (style : QuoteStyle) : Reader Token
  | [] => none
  | c :: cs =>
    if c = '\'' then
      (Reader.quoted '\'' cs).map fun (value, rest) => (.string (String.ofList value), rest)
    else if c = style.opening then
      (style.read (c :: cs)).map fun (id, rest) => (.name id, rest)
    else some (.plain c, cs)

/-- A target that reads a text token by token, where a backslash in a string escapes, finds the end
of each where it was written. -/
def ReadInPlace (style : QuoteStyle) (meaning : Char → List Char) : List Token → Prop
  | [] => True
  | .plain c :: ts => opened? style c = none ∧ ReadInPlace style meaning ts
  | .name id :: ts =>
    style.read ((style.quote id).toList ++ written style ts) = some (id, written style ts) ∧
      ReadInPlace style meaning ts
  | .string value :: ts =>
    (∃ s, readEscaped meaning ((stringLiteral value).toList ++ written style ts) =
      some (s, written style ts)) ∧ ReadInPlace style meaning ts

namespace LaidOut

variable {t : Token} {ts : List Token}

theorem tail (h : LaidOut (t :: ts)) : LaidOut ts :=
  ⟨fun c hc => h.plain c (List.mem_cons_of_mem _ hc), h.apart.tail⟩

theorem opened_plain (h : LaidOut ts) {c : Char} (hc : .plain c ∈ ts) :
    opened? style c = none := by
  obtain ⟨hneutral, hquote⟩ := h.plain c hc
  rw [opened_neutral hneutral, if_neg hquote]

/-- What follows a quoted token opens no quotes. -/
theorem opened_of_head? (h : LaidOut (t :: ts)) (ht : t.isQuoted = true) {c : Char}
    (hc : (written style ts).head? = some c) : opened? style c = none := by
  cases ts with
  | nil => cases hc
  | cons t' ts =>
    have hnext := (List.isChain_cons_cons.1 h.apart).1 ht
    cases t' with
    | plain c' =>
      cases hc
      exact h.opened_plain (by simp)
    | name | string => cases hnext

/-- No single quote follows a string. -/
theorem head?_written_ne {value : String} (h : LaidOut (.string value :: ts)) :
    (written style ts).head? ≠ some '\'' := by
  intro hc
  have hopen := h.opened_of_head? rfl hc
  simp [opened?] at hopen

/-- A name is read back where closing quotes are doubled. -/
theorem read_name (hstyle : style ≠ .bracket) {id : String} (h : LaidOut (.name id :: ts)) :
    style.read ((style.quote id).toList ++ written style ts) = some (id, written style ts) := by
  have hnext : (written style ts).head? ≠ some style.closing := by
    intro hc
    have hopen := h.opened_of_head? rfl hc
    cases style <;> simp [opened?, QuoteStyle.opening, QuoteStyle.closing] at hopen hstyle
  refine (QuoteStyle.read_quote_iff hnext).2 ?_
  cases style with
  | double | backtick => rfl
  | bracket => contradiction

/-- Tokens are read in place exactly if the backslashes of every string pair up: names hold no
surprise, since their closing quotes are doubled. -/
theorem readInPlace_iff (meaning : Char → List Char) (hstyle : style ≠ .bracket)
    (h : LaidOut ts) :
    ReadInPlace style meaning ts ↔
      ∀ value, .string value ∈ ts → BackslashesPaired value.toList := by
  induction ts with
  | nil => simp [ReadInPlace]
  | cons t ts ih =>
    have htail := ih h.tail
    cases t with
    | plain c =>
      have hopen : opened? style c = none := h.opened_plain (by simp)
      simpa [ReadInPlace, htail] using fun _ => hopen
    | name id => simpa [ReadInPlace, htail] using fun _ => h.read_name hstyle
    | string value => simp [ReadInPlace, htail, exists_readEscaped_iff h.head?_written_ne]

/-- Each token is read back where a backslash is a character like any other. -/
theorem read_written (hstyle : style ≠ .bracket) (h : LaidOut (t :: ts)) :
    Token.read style (written style (t :: ts)) = some (t, written style ts) := by
  cases t with
  | plain c =>
    obtain ⟨-, hquote⟩ := h.plain c List.mem_cons_self
    have hopen : opened? style c = none := h.opened_plain List.mem_cons_self
    have hother : c ≠ style.opening := by
      rintro rfl
      simp [opened?, hquote] at hopen
    show Token.read style (c :: written style ts) = _
    rw [Token.read, if_neg hquote, if_neg hother]
  | name id =>
    have hread := h.read_name hstyle
    have htext : (style.quote id).toList ++ written style ts =
        style.opening :: (style.escape id.toList ++ style.closing :: written style ts) := by
      simp [QuoteStyle.quote, Text.enclose]
    have hquote : style.opening ≠ '\'' := by cases style <;> decide
    rw [htext] at hread
    rw [written_cons, Token.text, htext, Token.read, if_neg hquote, if_pos rfl, hread,
      Option.map_some]
  | string value =>
    have hnext : (written style ts).head? ≠ some '\'' := h.head?_written_ne
    have hread := Reader.quoted_append value.toList hnext
    have htext : (stringLiteral value).toList ++ written style ts =
        '\'' :: (double '\'' value.toList ++ '\'' :: written style ts) := by
      simp [stringLiteral, enclose]
    rw [written_cons, Token.text, htext, Token.read, if_pos rfl, hread]
    simp only [Option.map_some, String.ofList_toList]

/-- A text is written from one list of tokens only. -/
theorem eq_of_written_eq (hstyle : style ≠ .bracket) {ts' : List Token} (h : LaidOut ts)
    (h' : LaidOut ts') (heq : written style ts = written style ts') : ts = ts' := by
  induction ts generalizing ts' with
  | nil =>
    cases ts' with
    | nil => rfl
    | cons t' ts' =>
      have hread := h'.read_written hstyle
      rw [← heq] at hread
      cases hread
  | cons t ts ih =>
    have hread := h.read_written hstyle
    rw [heq] at hread
    cases ts' with
    | nil => cases hread
    | cons t' ts' =>
      rw [h'.read_written hstyle] at hread
      obtain ⟨rfl, hrest⟩ := Prod.mk.inj (Option.some.inj hread)
      rw [ih h.tail h'.tail hrest.symm]

end LaidOut

/-! ## literals in rendered texts -/

/-- A text holds the string literal of a value outside of all other quotes, and no quote follows it.
-/
def HoldsLiteral (style : QuoteStyle) (text value : String) : Prop :=
  ∃ front back, text = front ++ stringLiteral value ++ back ∧
    (scan style none front.toList).2 = none ∧ back.toList.head? ≠ some '\''

/-- A template holds a literal if no quote is open in front of it and none follows it. -/
theorem holdsLiteral_join {value : String} (front back : List Piece) {s : State}
    (hfront : Piece.through (.at 0) front = some s) (hquote : s.quote = none)
    (hinner : Piece.inner front = []) (hparts : ∀ t ∈ Piece.contents front, Safe style t)
    (hback : (Piece.join back).toList.head? ≠ some '\'') :
    HoldsLiteral style (Piece.join (front ++ .literal value :: back)) value := by
  refine ⟨Piece.join front, Piece.join back, ?_, ?_, hback⟩
  · apply String.toList_inj.1
    simp [Piece.toList_join, Piece.text]
  · have hrun := Piece.run_join (.inl rfl) hfront hparts (by simp [hinner]) 0
    rw [State.raise_zero, State.raise_zero] at hrun
    have hsettled : Settled style none ⟨0, .calm⟩ := by
      intro q hq
      cases hq
    exact (scan_of_run hsettled hrun).1.trans hquote

theorem holdsLiteral_standardInterval (value : String) (kind : IntervalKind) :
    HoldsLiteral style (standardInterval value kind) value := by
  cases kind with
  | yearToMonth p =>
    exact holdsLiteral_join [.fixed "INTERVAL "]
      [.fixed " YEAR(", .part (toString p.toNat), .fixed ") TO MONTH"] rfl rfl rfl
      (by simp [Piece.contents]) (by simp [Piece.toList_join, Piece.text])
  | dayToSecond p f =>
    exact holdsLiteral_join [.fixed "INTERVAL "] [.fixed " DAY(", .part (toString p.toNat),
      .fixed ") TO SECOND(", .part (toString f.toNat), .fixed ")"] rfl rfl rfl
      (by simp [Piece.contents]) (by simp [Piece.toList_join, Piece.text])

/-! ## dialects in which a backslash escapes -/

namespace Dialect

section

variable {c : AggregateText} {value : String} (hc : c.PartsAssembled (Safe style))
  (hf : c.function = .groupConcat) (hliteral : c.separatorLiteral = stringLiteral value)
include hc hf hliteral

theorem MySql.holdsLiteral_separator : HoldsLiteral style (MySql.target.aggregateText c) value := by
  have harg : Safe style c.arg := hc.arg.safe fun _ h => h
  have horder : Safe style c.orderOrSelf := hc.orderOrSelf.safe fun _ h => h
  have hname : MySql.profile.aggregateName .groupConcat = "GROUP_CONCAT" := rfl
  have htext : MySql.target.aggregateText c = c.separatorClause "GROUP_CONCAT" := by
    simp [Target.aggregateText, MySql.target, Target.plainAggregate, hf, hname]
  rw [htext, AggregateText.separatorClause, hliteral]
  refine holdsLiteral_join [.fixed "GROUP_CONCAT", .fixed "(", .fixed c.distinctWord, .part c.arg,
    .fixed " ORDER BY ", .part c.orderOrSelf, .fixed " SEPARATOR "] [.fixed ")"]
    (s := ⟨none, ⟨1, .calm⟩⟩) ?_ rfl rfl (by simp [Piece.contents, harg, horder])
    (by simp [Piece.join, Piece.text])
  unfold AggregateText.distinctWord
  split <;> rfl

omit hc in
theorem Hive.holdsLiteral_separator : HoldsLiteral style (Hive.target.aggregateText c) value := by
  have htext : Hive.target.aggregateText c = "CONCAT_WS(" ++ stringLiteral value ++ ", " ++
      (if c.distinct then "COLLECT_SET" else "COLLECT_LIST") ++ "(" ++ c.arg ++ "))" := by
    rw [← hliteral]
    simp [Target.aggregateText, Hive.target, Hive.aggregateForm, hf]
  rw [htext]
  exact holdsLiteral_join [.fixed "CONCAT_WS("] [.fixed ", ", .part _, .fixed "(", .part c.arg,
    .fixed "))"] rfl rfl rfl (by simp [Piece.contents]) (by simp [Piece.toList_join, Piece.text])

theorem Impala.holdsLiteral_separator :
    HoldsLiteral style (Impala.target.aggregateText c) value := by
  have harg : Safe style c.arg := hc.arg.safe fun _ h => h
  have htext : Impala.target.aggregateText c = "GROUP_CONCAT(" ++ c.distinctWord ++ c.arg ++
      ", " ++ stringLiteral value ++ ")" := by
    rw [← hliteral]
    simp [Target.aggregateText, Impala.target, Impala.aggregateForm, hf]
  rw [htext]
  refine holdsLiteral_join [.fixed "GROUP_CONCAT(", .fixed c.distinctWord, .part c.arg,
    .fixed ", "] [.fixed ")"] (s := ⟨none, ⟨1, .calm⟩⟩) ?_ rfl rfl
    (by simp [Piece.contents, harg]) (by simp [Piece.join, Piece.text])
  unfold AggregateText.distinctWord
  split <;> rfl

end

/-- The dialects to whose targets a backslash in a string escapes the next character. -/
def escapesByBackslash : Dialect → Bool
  | mySql | hive | impala => true
  | _ => false

variable {d : Dialect} {p : Properties} {t : Target}

section

variable (hd : d.escapesByBackslash = true) (ht : d.target p = .ok t)
include hd ht

theorem target_cases : t = MySql.target ∨ t = Hive.target ∨ t = Impala.target := by
  cases d with
  | mySql => cases ht; exact .inl rfl
  | hive => cases ht; exact .inr (.inl rfl)
  | impala => cases ht; exact .inr (.inr rfl)
  | _ => cases hd

theorem quoteStyle_eq_backtick : t.profile.quoteStyle = .backtick := by
  obtain rfl | rfl | rfl := target_cases hd ht <;> rfl

/-- Names hold no surprise: their closing quotes are doubled. -/
theorem supplied (e : Expr) : e.Supplied t.profile (Safe t.profile.quoteStyle) := by
  refine Expr.NamesAdmitted.supplied ?_
  rw [quoteStyle_eq_backtick hd ht]
  exact fun _ _ => ⟨nofun, nofun⟩

/-- The separator of a concatenation is written as a literal. -/
theorem holdsLiteral_separator {c : AggregateText} {value : String}
    (hc : c.PartsAssembled (Safe t.profile.quoteStyle)) (hf : c.function = .groupConcat)
    (hseparator : c.separator = some value) :
    HoldsLiteral t.profile.quoteStyle (t.aggregateText c) value := by
  have hliteral : c.separatorLiteral = stringLiteral value := by
    rw [AggregateText.separatorLiteral, hseparator, Option.getD_some]
  obtain rfl | rfl | rfl := target_cases hd ht
  · exact MySql.holdsLiteral_separator hc hf hliteral
  · exact Hive.holdsLiteral_separator hf hliteral
  · exact Impala.holdsLiteral_separator hc hf hliteral

/-- The string of a literal and the separator of a concatenation are written as literals. -/
theorem holdsLiteral_render {e : Expr} {position : Position} {sql value : String}
    (he : e.quoted? = some value) (h : t.render position e = .ok sql) :
    HoldsLiteral t.profile.quoteStyle sql value := by
  cases e with
  | literal l =>
    cases l with
    | string s =>
      cases he
      have htext : stringLiteral value = sql := Except.ok.inj h
      exact ⟨"", "", by simp [htext], rfl, by simp⟩
    | interval s kind =>
      cases he
      have htext : t.intervalLiteral value kind = sql := Except.ok.inj h
      have hstandard : t.intervalLiteral = standardInterval := by
        obtain rfl | rfl | rfl := target_cases hd ht <;> rfl
      rw [← htext, hstandard]
      exact holdsLiteral_standardInterval value kind
    | _ => cases he
  | aggregate f args distinct orderBy separator =>
    cases f with
    | groupConcat =>
      obtain ⟨-, -, parts, keys, hparts, hkeys, rfl⟩ := Target.render_aggregate.1 h
      have hcasts : t.profile.castsAggregate .groupConcat = false := by
        obtain rfl | rfl | rfl := target_cases hd ht <;> rfl
      rw [hcasts, Target.callText, Bool.false_and, if_neg Bool.false_ne_true]
      refine holdsLiteral_separator hd ht (Target.partsAssembled ?_ ?_ ?_ hparts hkeys) rfl he
      · exact fun c _ text => Target.assembled_renderOperand (templated ht) (supplied hd ht c)
      · exact fun k _ sql => Target.assembled_render (templated ht) (supplied hd ht k.expr)
      · exact fun value _ _ => safe_stringLiteral value
    | _ => cases he
  | _ => cases he

end

/-- **Strings end where they should.**  Where a backslash escapes the next character, whatever it
then means, a string literal ends at its closing quote exactly if its value has an even number of
backslashes right before each quote and at its end; without a backslash it is read as its value.
Strings, the texts of intervals and the separators of concatenations are all written as such
literals, outside of other quotes, and no quote follows them.  A whole statement consists of quoted
names, string literals and characters that open no quotes, no quoted text right after another, and
in one way only; its string literals are those of the query or have no backslash.  It is read as it
was written exactly if all of them meet the condition, and so it is if those of the query do. -/
theorem stringLiteral_ends_iff (hd : d.escapesByBackslash = true) (ht : d.target p = .ok t)
    (meaning : Char → List Char) (v : String) {r : List Char} (hr : r.head? ≠ some '\'') :
    ((∃ s, readEscaped meaning ((stringLiteral v).toList ++ r) = some (s, r)) ↔
        BackslashesPaired v.toList) ∧
      ('\\' ∉ v.toList →
        readEscaped meaning ((stringLiteral v).toList ++ r) = some (v.toList, r)) ∧
      (∀ position, t.render position (.literal (.string v)) = .ok (stringLiteral v)) ∧
      (∀ (e : Expr) position sql, e.quoted? = some v → t.render position e = .ok sql →
        HoldsLiteral t.profile.quoteStyle sql v) ∧
      ∀ s sql, d.generate p s = .ok sql → ∃ ts,
        Spells t.profile.quoteStyle s.Quotes ts sql.toList ∧
        (∀ ts', LaidOut ts' → written t.profile.quoteStyle ts' = sql.toList → ts' = ts) ∧
        (ReadInPlace t.profile.quoteStyle meaning ts ↔
          ∀ value, .string value ∈ ts → BackslashesPaired value.toList) ∧
        ((∀ value, s.Quotes value → BackslashesPaired value.toList) →
          ReadInPlace t.profile.quoteStyle meaning ts) := by
  refine ⟨exists_readEscaped_iff hr v, fun hv => ?_, fun _ => rfl,
    fun _ _ _ he h => holdsLiteral_render hd ht he h, fun s sql h => ?_⟩
  · rw [readEscaped_stringLiteral]
    exact escapedBody_double hr hv
  · obtain ⟨ts, hts⟩ := Target.tokenized_generate (templated ht) ((generate_eq_ok_iff ht).1 h)
    have hstyle : t.profile.quoteStyle ≠ .bracket := by
      rw [quoteStyle_eq_backtick hd ht]
      decide
    have hread := hts.laidOut.readInPlace_iff meaning hstyle
    refine ⟨ts, hts, fun ts' hts' heq => ?_, hread, fun hpaired => hread.2 fun value hvalue => ?_⟩
    · exact hts'.eq_of_written_eq hstyle hts.laidOut (heq.trans hts.written.symm)
    · obtain hquotes | hnone := hts.strings value hvalue
      · exact hpaired value hquotes
      · exact backslashesPaired_of_notMem hnone

/-- Two backslashes before a quote: the literal ends at its closing quote, and a statement with it
is read as it was written. -/
theorem stringLiteral_ends_paired :
    BackslashesPaired "\\\\'".toList ∧ stringLiteral "\\\\'" = "'\\\\'''" ∧
      (∃ s, readEscaped (fun c => [c]) ("'\\\\'''".toList ++ " OR 1 = 0".toList) =
        some (s, " OR 1 = 0".toList)) ∧
      mySql.generate {} ((Select.ofTable { name := "T" }).withFilter
        (.isNull (.literal (.string "\\\\'")) false)) =
          .ok "SELECT * FROM T WHERE '\\\\''' IS NULL" ∧
      ∃ ts, written .backtick ts = "SELECT * FROM T WHERE '\\\\''' IS NULL".toList ∧
        LaidOut ts ∧ ReadInPlace .backtick (fun c => [c]) ts := by
  generalize hs : (Select.ofTable { name := "T" }).withFilter _ = s
  have hpaired : BackslashesPaired "\\\\'".toList := by
    have hquote : BackslashesPaired ['\''] :=
      (backslashesPaired_plain (by decide)).2 backslashesPaired_nil
    exact backslashesPaired_escape.2 ⟨by decide, hquote⟩
  have htext : stringLiteral "\\\\'" = "'\\\\'''" := by decide +kernel
  have hsql : mySql.generate {} s = .ok "SELECT * FROM T WHERE '\\\\''' IS NULL" := by
    subst hs
    decide +kernel
  have hquotes : ∀ value, s.Quotes value → BackslashesPaired value.toList := by
    rintro value ⟨e, ⟨root, hroot, hocc⟩, he⟩
    subst hs
    obtain rfl := List.mem_singleton.1 hroot
    obtain rfl | ⟨x, hx, hocc⟩ := Expr.occurs_iff.1 hocc
    · cases he
    · obtain rfl := List.mem_singleton.1 hx
      obtain rfl | ⟨_, hx, -⟩ := Expr.occurs_iff.1 hocc
      · cases he
        exact hpaired
      · cases hx
  obtain ⟨hends, -, -, -, hstatements⟩ := stringLiteral_ends_iff (d := mySql) (p := {}) rfl rfl
    (fun c => [c]) "\\\\'" (r := " OR 1 = 0".toList) (by decide)
  obtain ⟨ts, hspells, -, -, hread⟩ := hstatements s _ hsql
  rw [htext] at hends
  exact ⟨hpaired, htext, hends.2 hpaired, hsql, ts, hspells.written, hspells.laidOut,
    hread hquotes⟩

/-- A backslash at the end of a string escapes its closing quote, and the literal runs on into the
statement. -/
theorem stringLiteral_runs_on :
    MySql.target.plainLiteral (.string "\\") = .ok "'\\'" ∧
      readEscaped (fun c => [c]) ("'\\'".toList ++ " OR 1 = 0".toList) = none ∧
      ¬∀ (d : Dialect) (p : Properties) (t : Target) (v sql : String) (r : List Char),
        d.escapesByBackslash = true → d.target p = .ok t →
        t.plainLiteral (.string v) = .ok sql → r.head? ≠ some '\'' →
        ∃ s, readEscaped (fun c => [c]) (sql.toList ++ r) = some (s, r) := by
  have htext : MySql.target.plainLiteral (.string "\\") = .ok "'\\'" := by decide +kernel
  have hnone : readEscaped (fun c => [c]) ("'\\'".toList ++ " OR 1 = 0".toList) = none := by
    decide +kernel
  refine ⟨htext, hnone, fun h => ?_⟩
  obtain ⟨s, hs⟩ := h mySql {} MySql.target "\\" "'\\'" " OR 1 = 0".toList rfl rfl htext (by decide)
  rw [hnone] at hs
  cases hs

end Dialect

end RemoteQuery
