import RemoteQuery.Proofs.Reader
import RemoteQuery.Target.Identifier
import Mathlib.Data.List.DropRight

/-!
# RemoteQuery.Proofs.QuotedInPlace

Quoted texts in the middle of a statement.  A reader that meets an opening quote
goes on to the closing one, and what it finds there is not what stands at the end
of the statement: it depends on what the reader takes for an escaped quote.

* `QuoteStyle.read_quote_iff` — a quoted identifier is read back in place if its
  closing quotes are doubled;
* `QuoteStyle.bracket_read_iff` — in brackets, if it has none;
* `Text.exists_readEscaped_iff` — where a backslash escapes, a string ends at its
  closing quote if its backslashes come in pairs.
-/

namespace RemoteQuery

/-! ## identifiers -/

namespace Text

theorem length_double (q : Char) (cs : List Char) :
    (double q cs).length = cs.length + cs.count q := by
  induction cs with
  | nil => rfl
  | cons c cs ih =>
    rw [double]
    split
    next h =>
      rw [h, List.count_cons_self]
      simp only [List.length_cons, ih]
      omega
    next h =>
      rw [List.count_cons_of_ne h]
      simp only [List.length_cons, ih]
      omega

/-- Doubling changes a text exactly if there is something to double. -/
theorem double_eq_self_iff {q : Char} {cs : List Char} : double q cs = cs ↔ q ∉ cs := by
  refine ⟨fun h => ?_, double_of_notMem⟩
  have hlength := length_double q cs
  rw [h] at hlength
  exact List.count_eq_zero.1 (by omega)

end Text

/-- Only doubled text is read up to a closing quote. -/
theorem Reader.eq_of_quoted {q : Char} {cs s rest : List Char}
    (h : quoted q cs = some (s, rest)) : cs = Text.double q s ++ q :: rest := by
  fun_induction quoted q cs generalizing s rest with
  | case1 => cases h
  | case2 => cases h; rfl
  | case3 => cases h
  | case4 cs ih =>
    obtain ⟨⟨s', rest'⟩, hs, heq⟩ := Option.map_eq_some_iff.1 h
    cases heq
    rw [ih hs, Text.double, if_pos rfl]
    rfl
  | case5 => cases h; rfl
  | case6 c d cs hc ih =>
    obtain ⟨⟨s', rest'⟩, hs, heq⟩ := Option.map_eq_some_iff.1 h
    cases heq
    rw [ih hs, Text.double, if_neg hc]
    rfl

namespace QuoteStyle

/-- A quoted identifier at the front of a text: the closing quote, written twice, stands for itself,
and a single one ends the identifier. -/
def read (style : QuoteStyle) : Reader String
  | [] => none
  | c :: cs =>
    if c = style.opening then
      (Reader.quoted style.closing cs).map fun (name, rest) => (String.ofList name, rest)
    else none

variable {style : QuoteStyle} {id : String} {r : List Char}

/-- A quoted identifier is read back in place exactly if its closing quotes are doubled. -/
theorem read_quote_iff (hr : r.head? ≠ some style.closing) :
    style.read ((style.quote id).toList ++ r) = some (id, r) ↔
      style.escape id.toList = Text.double style.closing id.toList := by
  have htext : (style.quote id).toList ++ r =
      style.opening :: (style.escape id.toList ++ style.closing :: r) := by
    simp [quote, Text.enclose]
  rw [htext, read, if_pos rfl]
  constructor
  · intro h
    obtain ⟨⟨name, rest⟩, hread, heq⟩ := Option.map_eq_some_iff.1 h
    cases heq
    rw [String.toList_ofList]
    rw [String.toList_ofList] at hread
    exact List.append_cancel_right (Reader.eq_of_quoted hread)
  · intro h
    rw [h, Reader.quoted_append id.toList hr, Option.map_some]
    simp only [String.ofList_toList]

/-- **Names between brackets end where they should.**  A name in brackets is read back, up to the
text after it, exactly if it holds no closing bracket: nothing is escaped there. -/
theorem bracket_read_iff (id : String) {r : List Char} (hr : r.head? ≠ some ']') :
    bracket.read ((bracket.quote id).toList ++ r) = some (id, r) ↔ ']' ∉ id.toList := by
  rw [read_quote_iff hr, eq_comm]
  exact Text.double_eq_self_iff

/-- An opening bracket in a name, and a closing one later in the statement. -/
theorem bracket_read_opening :
    bracket.quote "order [lines" = "[order [lines]" ∧
      bracket.read ("[order [lines]".toList ++ ".[id]".toList) =
        some ("order [lines", ".[id]".toList) := by
  have htext : bracket.quote "order [lines" = "[order [lines]" := by decide +kernel
  refine ⟨htext, ?_⟩
  rw [← htext]
  exact (bracket_read_iff "order [lines" (by decide)).2 (by decide)

/-- A name with a closing bracket ends early, and the rest of it is read as part of the statement.
-/
theorem bracket_read_ends_early :
    bracket.quote "a]b" = "[a]b]" ∧ bracket.read "[a]b]".toList = some ("a", "b]".toList) ∧
      ¬∀ (id : String) (r : List Char), r.head? ≠ some ']' →
        bracket.read ((bracket.quote id).toList ++ r) = some (id, r) := by
  refine ⟨by decide +kernel, by decide +kernel, fun h => ?_⟩
  have hread := h "a]b" [] (by decide)
  revert hread
  decide +kernel

end QuoteStyle

/-! ## strings -/

namespace Text

/-- The text of a string up to its closing quote, for a reader to whom a backslash escapes the next
character.  Two quotes stand for one; `meaning` says what an escaped character stands for. -/
def escapedBody (meaning : Char → List Char) : Reader (List Char)
  | [] => none
  | [c] => if c = '\'' then some ([], []) else none
  | c :: d :: cs =>
    if c = '\\' then (escapedBody meaning cs).map fun (s, rest) => (meaning d ++ s, rest)
    else if c = '\'' then
      if d = '\'' then (escapedBody meaning cs).map fun (s, rest) => ('\'' :: s, rest)
      else some ([], d :: cs)
    else (escapedBody meaning (d :: cs)).map fun (s, rest) => (c :: s, rest)

/-- A string at the front of a text, for a reader to whom a backslash escapes the next character. -/
def readEscaped (meaning : Char → List Char) : Reader (List Char)
  | [] => none
  | c :: cs => if c = '\'' then escapedBody meaning cs else none

section

variable {meaning : Char → List Char} {c d : Char} {cs r : List Char}

theorem escapedBody_escape : escapedBody meaning ('\\' :: d :: cs) =
    (escapedBody meaning cs).map fun (s, rest) => (meaning d ++ s, rest) := by
  rw [escapedBody, if_pos rfl]

theorem escapedBody_pair : escapedBody meaning ('\'' :: '\'' :: cs) =
    (escapedBody meaning cs).map fun (s, rest) => ('\'' :: s, rest) := by
  rw [escapedBody, if_neg (by decide), if_pos rfl, if_pos rfl]

theorem escapedBody_close (h : cs.head? ≠ some '\'') :
    escapedBody meaning ('\'' :: cs) = some ([], cs) := by
  cases cs with
  | nil => rfl
  | cons d cs =>
    have hd : d ≠ '\'' := by simpa using h
    rw [escapedBody, if_neg (by decide), if_pos rfl, if_neg hd]

theorem escapedBody_plain (hb : c ≠ '\\') (hq : c ≠ '\'') :
    escapedBody meaning (c :: cs) =
      (escapedBody meaning cs).map fun (s, rest) => (c :: s, rest) := by
  cases cs with
  | nil => simp [escapedBody, hq]
  | cons d cs => rw [escapedBody, if_neg hb, if_neg hq]

/-! ### where a string ends -/

/-- The text of a string goes up to the text `r`. -/
def EndsAt (meaning : Char → List Char) (cs r : List Char) : Prop :=
  ∃ s, escapedBody meaning cs = some (s, r)

theorem endsAt_map {f : List Char → List Char} :
    (∃ s, (escapedBody meaning cs).map (fun (s, rest) => (f s, rest)) = some (s, r)) ↔
      EndsAt meaning cs r := by
  constructor
  · rintro ⟨_, h⟩
    obtain ⟨⟨s, rest⟩, hs, heq⟩ := Option.map_eq_some_iff.1 h
    cases heq
    exact ⟨s, hs⟩
  · rintro ⟨s, hs⟩
    exact ⟨f s, by rw [hs, Option.map_some]⟩

theorem endsAt_escape : EndsAt meaning ('\\' :: d :: cs) r ↔ EndsAt meaning cs r := by
  rw [EndsAt, escapedBody_escape, endsAt_map]

theorem endsAt_pair : EndsAt meaning ('\'' :: '\'' :: cs) r ↔ EndsAt meaning cs r := by
  rw [EndsAt, escapedBody_pair, endsAt_map]

theorem endsAt_close (h : cs.head? ≠ some '\'') : EndsAt meaning ('\'' :: cs) r ↔ cs = r := by
  simp [EndsAt, escapedBody_close h]

theorem endsAt_plain (hb : c ≠ '\\') (hq : c ≠ '\'') :
    EndsAt meaning (c :: cs) r ↔ EndsAt meaning cs r := by
  rw [EndsAt, escapedBody_plain hb hq, endsAt_map]

/-- A string takes at least its closing quote off the text. -/
theorem EndsAt.length_lt (h : EndsAt meaning cs r) : r.length < cs.length := by
  obtain ⟨s, h⟩ := h
  fun_induction escapedBody meaning cs generalizing s with
  | case1 => cases h
  | case2 => cases h; exact Nat.zero_lt_one
  | case3 => cases h
  | case4 d cs ih =>
    obtain ⟨⟨s', _⟩, hs, heq⟩ := Option.map_eq_some_iff.1 h
    cases heq
    have := ih s' hs
    simp only [List.length_cons]
    omega
  | case5 cs _ ih =>
    obtain ⟨⟨s', _⟩, hs, heq⟩ := Option.map_eq_some_iff.1 h
    cases heq
    have := ih s' hs
    simp only [List.length_cons]
    omega
  | case6 => cases h; simp
  | case7 c d cs _ _ ih =>
    obtain ⟨⟨s', _⟩, hs, heq⟩ := Option.map_eq_some_iff.1 h
    cases heq
    have := ih s' hs
    rw [List.length_cons]
    omega

/-- After one quote too many, doubled quotes pair up wrongly, and the string ends at another place:
at the next other character, or beyond its closing quote. -/
theorem not_endsAt_shifted (v : List Char) :
    ¬EndsAt meaning ('\'' :: (double '\'' v ++ '\'' :: r)) r := by
  induction v with
  | nil =>
    rw [double, List.nil_append, endsAt_pair]
    exact fun h => absurd h.length_lt (Nat.lt_irrefl _)
  | cons c v ih =>
    rw [double]
    split
    · rw [List.cons_append, endsAt_pair]
      exact ih
    next hc =>
      rw [List.cons_append, endsAt_close (by simpa using hc)]
      intro heq
      have hlength := congrArg List.length heq
      simp only [List.length_cons, List.length_append] at hlength
      omega

/-! ### pairs of backslashes -/

/-- The number of backslashes at the end of a text. -/
def trailingBackslashes (cs : List Char) : Nat :=
  (cs.rtakeWhile (· == '\\')).length

/-- A text has an even number of backslashes right before each of its quotes and at its end. -/
def BackslashesPaired (v : List Char) : Prop :=
  ∀ front back, front ++ back = v → back = [] ∨ back.head? = some '\'' →
    trailingBackslashes front % 2 = 0

variable {v front : List Char}

theorem trailingBackslashes_concat (cs : List Char) (c : Char) :
    trailingBackslashes (cs ++ [c]) = if c = '\\' then trailingBackslashes cs + 1 else 0 := by
  rw [trailingBackslashes, List.rtakeWhile_concat]
  split <;> simp_all [trailingBackslashes]

/-- Where the backslashes in front pair up, only those after them count. -/
theorem trailingBackslashes_append (h : trailingBackslashes front % 2 = 0) (cs : List Char) :
    trailingBackslashes (front ++ cs) % 2 = trailingBackslashes cs % 2 := by
  induction cs using List.reverseRecOn with
  | nil =>
    rw [List.append_nil, h]
    rfl
  | append_singleton cs c ih =>
    rw [← List.append_assoc, trailingBackslashes_concat, trailingBackslashes_concat]
    split
    · omega
    · rfl

theorem backslashesPaired_nil : BackslashesPaired [] := by
  intro front back h _
  rw [(List.append_eq_nil_iff.1 h).1]
  rfl

theorem not_backslashesPaired_lone : ¬BackslashesPaired ['\\'] := by
  intro h
  have hodd := h ['\\'] [] rfl (.inl rfl)
  revert hodd
  decide

theorem backslashesPaired_plain (hc : c ≠ '\\') :
    BackslashesPaired (c :: v) ↔ BackslashesPaired v := by
  have hfront : trailingBackslashes [c] % 2 = 0 := by
    rw [← List.nil_append [c], trailingBackslashes_concat, if_neg hc]
  constructor
  · intro h front back heq hend
    rw [← trailingBackslashes_append hfront]
    exact h (c :: front) back (by rw [List.cons_append, heq]) hend
  · intro h front back heq hend
    cases front with
    | nil => rfl
    | cons d front =>
      rw [List.cons_append, List.cons_eq_cons] at heq
      obtain ⟨rfl, heq⟩ := heq
      exact (trailingBackslashes_append hfront front).trans (h front back heq hend)

theorem backslashesPaired_escape :
    BackslashesPaired ('\\' :: d :: v) ↔ d ≠ '\'' ∧ BackslashesPaired v := by
  have hfront : trailingBackslashes ['\\', d] % 2 = 0 := by
    rw [← List.singleton_append, trailingBackslashes_concat]
    split <;> rfl
  constructor
  · refine fun h => ⟨fun hd => ?_, fun front back heq hend => ?_⟩
    · have hodd := h ['\\'] (d :: v) rfl (.inr (congrArg some hd))
      revert hodd
      decide
    · rw [← trailingBackslashes_append hfront]
      exact h ('\\' :: d :: front) back (by rw [List.cons_append, List.cons_append, heq]) hend
  · rintro ⟨hd, h⟩ front back heq hend
    match front with
    | [] => rfl
    | [b] =>
      obtain ⟨-, rfl⟩ := List.cons_eq_cons.1 heq
      simp [hd] at hend
    | b :: d' :: front =>
      rw [List.cons_append, List.cons_append, List.cons_eq_cons, List.cons_eq_cons] at heq
      obtain ⟨rfl, rfl, heq⟩ := heq
      exact (trailingBackslashes_append hfront front).trans (h front back heq hend)

theorem endsAt_double_plain (hc : c ≠ '\\') :
    EndsAt meaning (double '\'' (c :: v) ++ '\'' :: r) r ↔
      EndsAt meaning (double '\'' v ++ '\'' :: r) r := by
  rw [double]
  split
  · rw [List.cons_append, List.cons_append, endsAt_pair]
  next hq => rw [List.cons_append, endsAt_plain hc hq]

/-- A backslash that takes a quote away leaves its double behind. -/
theorem endsAt_double_escape : EndsAt meaning (double '\'' ('\\' :: d :: v) ++ '\'' :: r) r ↔
    d ≠ '\'' ∧ EndsAt meaning (double '\'' v ++ '\'' :: r) r := by
  rw [double, if_neg (by decide), double]
  split
  next hd =>
    rw [List.cons_append, List.cons_append, List.cons_append, endsAt_escape]
    exact iff_of_false (not_endsAt_shifted v) fun h => h.1 hd
  next hd =>
    rw [List.cons_append, List.cons_append, endsAt_escape]
    exact (and_iff_right hd).symm

/-- Doubling the quotes of a string keeps its end in place exactly if its backslashes pair up.  The
induction takes a backslash together with the character that it escapes. -/
theorem endsAt_double_iff (hr : r.head? ≠ some '\'') (v : List Char) :
    EndsAt meaning (double '\'' v ++ '\'' :: r) r ↔ BackslashesPaired v := by
  have hnil : EndsAt meaning (double '\'' [] ++ '\'' :: r) r := (endsAt_close hr).2 rfl
  induction v using List.twoStepInduction with
  | nil => exact iff_of_true hnil backslashesPaired_nil
  | singleton c =>
    by_cases hc : c = '\\'
    · subst hc
      refine iff_of_false ?_ not_backslashesPaired_lone
      show ¬EndsAt meaning ('\\' :: '\'' :: r) r
      rw [endsAt_escape]
      exact fun h => absurd h.length_lt (Nat.lt_irrefl _)
    · rw [endsAt_double_plain hc, backslashesPaired_plain hc]
      exact iff_of_true hnil backslashesPaired_nil
  | cons_cons c d v ih ih' =>
    by_cases hc : c = '\\'
    · subst hc
      rw [endsAt_double_escape, backslashesPaired_escape]
      exact and_congr_right fun _ => ih
    · rw [endsAt_double_plain hc, backslashesPaired_plain hc]
      exact ih' d

theorem backslashesPaired_of_notMem (h : '\\' ∉ v) : BackslashesPaired v := by
  induction v with
  | nil => exact backslashesPaired_nil
  | cons c v ih =>
    rw [List.mem_cons, not_or] at h
    exact (backslashesPaired_plain (Ne.symm h.1)).2 (ih h.2)

/-- A string without backslashes is read back. -/
theorem escapedBody_double (hr : r.head? ≠ some '\'') (hv : '\\' ∉ v) :
    escapedBody meaning (double '\'' v ++ '\'' :: r) = some (v, r) := by
  induction v with
  | nil => exact escapedBody_close hr
  | cons c v ih =>
    rw [List.mem_cons, not_or] at hv
    rw [double]
    split
    next hq =>
      rw [List.cons_append, List.cons_append, escapedBody_pair, ih hv.2, hq]
      rfl
    next hq =>
      rw [List.cons_append, escapedBody_plain (Ne.symm hv.1) hq, ih hv.2]
      rfl

theorem readEscaped_stringLiteral (s : String) :
    readEscaped meaning ((stringLiteral s).toList ++ r) =
      escapedBody meaning (double '\'' s.toList ++ '\'' :: r) := by
  have htext : (stringLiteral s).toList ++ r = '\'' :: (double '\'' s.toList ++ '\'' :: r) := by
    simp [stringLiteral, enclose]
  rw [htext, readEscaped, if_pos rfl]

/-- Where a backslash escapes, a string literal ends at its closing quote exactly if the backslashes
of its value pair up. -/
theorem exists_readEscaped_iff (hr : r.head? ≠ some '\'') (s : String) :
    (∃ value, readEscaped meaning ((stringLiteral s).toList ++ r) = some (value, r)) ↔
      BackslashesPaired s.toList := by
  rw [readEscaped_stringLiteral]
  exact endsAt_double_iff hr s.toList

end

end Text

end RemoteQuery
