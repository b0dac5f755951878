import RemoteQuery.Proofs.Assembly
import Mathlib.Data.List.Chain

/-!
# RemoteQuery.Proofs.Layout

The text of a query as a list of tokens: quoted names, string literals and single
characters that are no quotes.  No quoted token stands right after another, so a
reader that takes a doubled quote for an escaped one never takes two tokens for
one.

* `Token`, `LaidOut` — the tokens of a text and how they may follow each other;
* `Assembled.tokenized` — a text that is assembled from tokens is a list of
  tokens;
* `Target.tokenized_generate` — so is the text of a query, and its string
  literals are those of the query or have no backslash.
-/

namespace RemoteQuery

open Lexing Piece

/-- What a text is written from. -/
inductive Token where
  | plain (c : Char)
  | name (id : String)
  | string (value : String)

namespace Token

variable {style : QuoteStyle}

def text (style : QuoteStyle) : Token → List Char
  | plain c => [c]
  | name id => (style.quote id).toList
  | string value => (Text.stringLiteral value).toList

def isQuoted : Token → Bool
  | plain _ => false
  | name _ | string _ => true

/-- Tokens one after the other. -/
def written (style : QuoteStyle) (ts : List Token) : List Char :=
  ts.flatMap (text style)

theorem written_append (xs ys : List Token) :
    written style (xs ++ ys) = written style xs ++ written style ys :=
  List.flatMap_append

theorem written_cons (t : Token) (ts : List Token) :
    written style (t :: ts) = t.text style ++ written style ts :=
  List.flatMap_cons

/-- A quoted token starts with a character that opens quotes. -/
theorem text_eq_cons (style : QuoteStyle) {t : Token} (h : t.isQuoted = true) :
    ∃ c cs, t.text style = c :: cs ∧ opened? style c ≠ none := by
  cases t with
  | plain c => cases h
  | name id =>
    refine ⟨style.opening, style.escape id.toList ++ [style.closing], ?_, ?_⟩
    · simp [text, QuoteStyle.quote, Text.enclose]
    · cases style <;> simp [opened?, QuoteStyle.opening]
  | string value =>
    refine ⟨'\'', Text.double '\'' value.toList ++ ['\''], ?_, by simp [opened?]⟩
    simp [text, Text.stringLiteral, Text.enclose]

end Token

open Token

/-- Single characters open no quotes of any style, and no quoted token stands right after another.
-/
structure LaidOut (ts : List Token) : Prop where
  plain : ∀ c, .plain c ∈ ts → isNeutral c = true ∧ c ≠ '\''
  apart : ts.IsChain fun t t' => t.isQuoted = true → t'.isQuoted = false

/-- A text is the writing of tokens that are laid out; their strings are listed ones or have no
backslash. -/
structure Spells (style : QuoteStyle) (Listed : String → Prop) (ts : List Token)
    (cs : List Char) : Prop where
  written : written style ts = cs
  laidOut : LaidOut ts
  strings : ∀ value, .string value ∈ ts → Listed value ∨ '\\' ∉ value.toList

def Tokenized (style : QuoteStyle) (Listed : String → Prop) (cs : List Char) : Prop :=
  ∃ ts, Spells style Listed ts cs

/-- A text of tokens that does not end with a quoted one. -/
def Clear (style : QuoteStyle) (Listed : String → Prop) (cs : List Char) : Prop :=
  ∃ ts, Spells style Listed ts cs ∧ ∀ t ∈ ts.getLast?, t.isQuoted = false

variable {style : QuoteStyle} {Listed : String → Prop} {cs ds : List Char} {c : Char}

/-! ## tokens one after the other -/

theorem Spells.append {xs ys : List Token} (hx : Spells style Listed xs cs)
    (hy : Spells style Listed ys ds)
    (h : ∀ t ∈ xs.getLast?, ∀ t' ∈ ys.head?, t.isQuoted = true → t'.isQuoted = false) :
    Spells style Listed (xs ++ ys) (cs ++ ds) where
  written := by rw [written_append, hx.written, hy.written]
  laidOut :=
    { plain := fun c hc => (List.mem_append.1 hc).elim (hx.laidOut.plain c) (hy.laidOut.plain c)
      apart := List.isChain_append.2 ⟨hx.laidOut.apart, hy.laidOut.apart, h⟩ }
  strings value hv := (List.mem_append.1 hv).elim (hx.strings value) (hy.strings value)

theorem spells_nil : Spells style Listed [] [] :=
  ⟨rfl, ⟨nofun, .nil⟩, nofun⟩

theorem spells_plain (h : isNeutral c = true ∧ c ≠ '\'') :
    Spells style Listed [.plain c] [c] where
  written := rfl
  laidOut := ⟨by simpa using h, .singleton _⟩
  strings := by simp

theorem tokenized_name (id : String) : Tokenized style Listed (style.quote id).toList :=
  ⟨[.name id], by simp [Token.written, Token.text], ⟨by simp, .singleton _⟩, by simp⟩

theorem tokenized_string {value : String} (h : Listed value ∨ '\\' ∉ value.toList) :
    Tokenized style Listed (Text.stringLiteral value).toList :=
  ⟨[.string value], by simp [Token.written, Token.text], ⟨by simp, .singleton _⟩, by simpa using h⟩

theorem clear_nil : Clear style Listed [] :=
  ⟨[], spells_nil, nofun⟩

theorem Clear.tokenized (h : Clear style Listed cs) : Tokenized style Listed cs := by
  obtain ⟨ts, hts, -⟩ := h
  exact ⟨ts, hts⟩

/-- Any token can follow a character. -/
theorem Clear.append (h : Clear style Listed cs) (hd : Tokenized style Listed ds) :
    Tokenized style Listed (cs ++ ds) := by
  obtain ⟨xs, hxs, hlast⟩ := h
  obtain ⟨ys, hys⟩ := hd
  refine ⟨xs ++ ys, hxs.append hys fun t ht _ _ hquoted => ?_⟩
  rw [hlast t ht] at hquoted
  cases hquoted

/-- A character can follow any token. -/
theorem Tokenized.concat (h : Tokenized style Listed cs) (hc : isNeutral c = true ∧ c ≠ '\'') :
    Clear style Listed (cs ++ [c]) := by
  obtain ⟨ts, hts⟩ := h
  refine ⟨ts ++ [.plain c], hts.append (spells_plain hc) ?_, ?_⟩
  · rintro _ _ _ ⟨⟩ _
    rfl
  · simp [Token.isQuoted]

/-- A text without quotes. -/
theorem clear_of_unquoted (h : ∀ c ∈ cs, isNeutral c = true ∧ c ≠ '\'') :
    Clear style Listed cs := by
  induction cs using List.reverseRecOn with
  | nil => exact clear_nil
  | append_singleton cs c ih =>
    rw [List.forall_mem_append, List.forall_mem_singleton] at h
    exact (ih h.1).tokenized.concat h.2

/-- Tokens that start with a blank can follow any others. -/
theorem Tokenized.append_blank (h : Tokenized style Listed cs) (hd : Tokenized style Listed ds)
    (hblank : ds.head? = some ' ') : Tokenized style Listed (cs ++ ds) := by
  obtain ⟨xs, hxs⟩ := h
  obtain ⟨ys, hys⟩ := hd
  refine ⟨xs ++ ys, hxs.append hys fun _ _ t ht _ => ?_⟩
  obtain ⟨ys, rfl⟩ := List.head?_eq_some_iff.1 ht
  by_contra hquoted
  obtain ⟨c, rest, htext, hopen⟩ := text_eq_cons style (by simpa using hquoted)
  rw [← hys.written, written_cons, htext] at hblank
  cases hblank
  cases style <;> simp [opened?, QuoteStyle.opening] at hopen

/-! ## templates -/

/-- The text up to an edge is a text of tokens, with an open string at its end if the edge is inside
of one. -/
def Reaches (style : QuoteStyle) (Listed : String → Prop) (cs : List Char) : Edge → Prop
  | .clear => Clear style Listed cs
  | .ended => Tokenized style Listed cs
  | .inside => ∃ front value, front ++ '\'' :: value = cs ∧ Clear style Listed front ∧
      '\'' ∉ value ∧ '\\' ∉ value

/-- An open string that is closed. -/
theorem Clear.close {value : List Char} (h : Clear style Listed cs)
    (hv : '\'' ∉ value ∧ '\\' ∉ value) : Tokenized style Listed (cs ++ '\'' :: value ++ ['\'']) := by
  have hstring : (Text.stringLiteral (String.ofList value)).toList = '\'' :: value ++ ['\''] := by
    simp [Text.stringLiteral, Text.enclose, Text.double_of_notMem hv.1]
  rw [List.append_assoc, ← hstring]
  exact h.append (tokenized_string (.inr (by simpa using hv.2)))

theorem reaches_step {e e' : Edge} (h : Reaches style Listed cs e) (hstep : e.step c = some e') :
    Reaches style Listed (cs ++ [c]) e' := by
  cases e with
  | clear =>
    rw [Edge.step] at hstep
    split at hstep
    next hc =>
      cases hstep
      exact ⟨cs, [], by rw [hc], h, List.not_mem_nil, List.not_mem_nil⟩
    next hc =>
      split at hstep
      next hneutral =>
        cases hstep
        exact h.tokenized.concat ⟨hneutral, hc⟩
      next => cases hstep
  | ended =>
    rw [Edge.step] at hstep
    split at hstep
    next => cases hstep
    next hc =>
      split at hstep
      next hneutral =>
        cases hstep
        exact Tokenized.concat h ⟨hneutral, hc⟩
      next => cases hstep
  | inside =>
    obtain ⟨front, value, rfl, hfront, hvalue⟩ := h
    rw [Edge.step] at hstep
    split at hstep
    next hc =>
      cases hstep
      subst hc
      exact hfront.close hvalue
    next hc =>
      split at hstep
      next => cases hstep
      next hb =>
        cases hstep
        refine ⟨front, value ++ [c], by simp, hfront, ?_⟩
        simpa [hvalue] using ⟨Ne.symm hc, Ne.symm hb⟩

theorem reaches_run {e e' : Edge} (h : Reaches style Listed cs e) (hrun : e.run ds = some e') :
    Reaches style Listed (cs ++ ds) e' := by
  induction ds generalizing cs e with
  | nil =>
    cases hrun
    simpa using h
  | cons d ds ih =>
    obtain ⟨e₁, he₁, hrun⟩ := Option.bind_eq_some_iff.1 hrun
    simpa using ih (reaches_step h he₁) hrun

/-- Parts between separators that set them apart. -/
theorem Clear.intercalate {separator : String} {texts : List String} (h : Clear style Listed cs)
    (hsep : Edge.run .ended separator.toList = some .clear)
    (htexts : ∀ text ∈ texts, Tokenized style Listed text.toList) :
    Tokenized style Listed (cs ++ (separator.intercalate texts).toList) := by
  induction texts generalizing cs with
  | nil => simpa using h.tokenized
  | cons text texts ih =>
    rw [List.forall_mem_cons] at htexts
    cases texts with
    | nil => simpa using h.append htexts.1
    | cons text' texts =>
      have hnext : Clear style Listed (cs ++ text.toList ++ separator.toList) :=
        reaches_run (e := .ended) (h.append htexts.1) hsep
      have hrest := ih hnext htexts.2
      rw [String.intercalate_cons_cons, String.toList_append, String.toList_append]
      simpa using hrest

theorem reaches_add {e e' : Edge} {p : Piece} (h : Reaches style Listed cs e)
    (hadd : e.add p = some e')
    (hparts : ∀ s ∈ contents [p], Tokenized style Listed s.toList)
    (hinner : ∀ s ∈ inner [p], Text.Verbatim s) :
    Reaches style Listed (cs ++ p.text.toList) e' := by
  cases p with
  | fixed text => exact reaches_run h hadd
  | part text =>
    obtain ⟨rfl, hadd⟩ := Option.ite_none_right_eq_some.1 hadd
    cases hadd
    exact Clear.append h (hparts text List.mem_cons_self)
  | parts separator texts =>
    obtain ⟨⟨rfl, hsep⟩, hended⟩ := Option.ite_none_right_eq_some.1 hadd
    cases hended
    exact Clear.intercalate h hsep fun text ht => hparts text (by simpa [contents] using ht)
  | quoted text =>
    obtain ⟨rfl, hadd⟩ := Option.ite_none_right_eq_some.1 hadd
    cases hadd
    obtain ⟨front, value, rfl, hfront, hvalue⟩ := h
    have htext := hinner text List.mem_cons_self
    refine ⟨front, value ++ text.toList, by simp [Piece.text], hfront, ?_⟩
    simp [hvalue, htext.1, htext.2]
  | literal text =>
    obtain ⟨rfl, hadd⟩ := Option.ite_none_right_eq_some.1 hadd
    cases hadd
    exact Clear.append h (hparts _ List.mem_cons_self)

/-- A template that keeps quoted texts apart is a text of tokens if its parts are. -/
theorem tokenized_pieces {e : Edge} {ps : List Piece} (h : Reaches style Listed cs e)
    (hapart : apart e ps = true) (hparts : ∀ s ∈ contents ps, Tokenized style Listed s.toList)
    (hinner : ∀ s ∈ inner ps, Text.Verbatim s) :
    Tokenized style Listed (cs ++ ps.flatMap fun q => q.text.toList) := by
  induction ps generalizing cs e with
  | nil =>
    rw [List.flatMap_nil, List.append_nil]
    cases e with
    | clear => exact Clear.tokenized h
    | ended => exact h
    | inside => cases hapart
  | cons p ps ih =>
    rw [contents_cons] at hparts
    rw [inner_cons] at hinner
    rw [apart, Option.any_eq_true] at hapart
    obtain ⟨e', hadd, hapart⟩ := hapart
    have hnext := reaches_add h hadd (fun s hs => hparts s (List.mem_append_left _ hs))
      fun s hs => hinner s (List.mem_append_left _ hs)
    rw [List.flatMap_cons, ← List.append_assoc]
    exact ih hnext hapart (fun s hs => hparts s (List.mem_append_right _ hs))
      fun s hs => hinner s (List.mem_append_right _ hs)

theorem isNeutral_of_signedDigits {s : List Char} (h : Text.SignedDigits s) :
    ∀ c ∈ s, isNeutral c = true ∧ c ≠ '\'' := by
  intro c hc
  obtain hdigit | hmark := h.digit_or_mark c hc
  · exact isNeutral_of_isPlain (isPlain_of_isDigit hdigit)
  · obtain rfl | rfl | rfl : c = '.' ∨ c = 'e' ∨ c = '-' := by simpa using hmark
    all_goals decide

/-- What is assembled from texts of tokens is one. -/
theorem Assembled.tokenized {Given : String → Prop} {s : String} (h : Assembled Given s)
    (hgiven : ∀ text, Given text → Tokenized style Listed text.toList) :
    Tokenized style Listed s.toList := by
  induction h with
  | given h => exact hgiven _ h
  | numeral h => exact (clear_of_unquoted (isNeutral_of_signedDigits h.signedDigits)).tokenized
  | template ps h _ hinner ih =>
    rw [toList_join]
    exact tokenized_pieces (e := .clear) clear_nil (Bool.and_eq_true_iff.1 h).2 ih hinner
  | follow _ _ h iha ihb =>
    rw [String.toList_append]
    obtain rfl | h := h
    · simpa using iha
    · exact iha.append_blank ihb h

/-! ## queries -/

/-- A name is written bare or between quotes. -/
theorem Profile.tokenized_identifierText (d : Profile) (name : String) :
    Tokenized d.quoteStyle Listed (d.identifierText name).toList := by
  unfold identifierText
  split
  next hbare =>
    rw [Bool.and_eq_true] at hbare
    refine (clear_of_unquoted fun c hc => isNeutral_of_isPlain ?_).tokenized
    obtain hc | rfl := CaseHandling.alphanum_of_isSimple hbare.1 c hc
    · exact isPlain_of_isAlphanum hc
    · rfl
  next => exact tokenized_name name

/-- The text of a query is a list of tokens; its string literals are those of the query or have no
backslash. -/
theorem Target.tokenized_generate {t : Target} (ht : t.Templated) {s : Select} {sql : String}
    (h : t.generate s = .ok sql) : Tokenized t.profile.quoteStyle s.Quotes sql.toList := by
  have hsupplied : s.Supplied t.profile fun text =>
      Tokenized t.profile.quoteStyle s.Quotes text.toList :=
    { source := fun name _ => t.profile.tokenized_identifierText name
      columns := fun c _ => ⟨t.profile.tokenized_identifierText c.qualifier,
        t.profile.tokenized_identifierText c.metadata.name⟩
      strings := fun value hvalue => tokenized_string (.inl hvalue) }
  exact (assembled_generate ht hsupplied h).tokenized fun _ h => h

end RemoteQuery
