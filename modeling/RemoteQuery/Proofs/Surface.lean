import RemoteQuery.Proofs.Template

/-!
# RemoteQuery.Proofs.Surface

What is left of a text for a reader who skips everything in quotes and in
parentheses.  An operator that is left binds to what stands beside the text; a
text that leaves none holds together wherever it is put.

Which characters of a template are left does not depend on its parts, as long as
they stand in parentheses or in quotes, so that too is decided by evaluation.

* `surface_append` — texts one after the other;
* `Piece.delimits` — the decision for a template;
* `Delimited` — how a text comes about that holds together;
* `Delimited.calm` — such a text leaves no operator.
-/

namespace RemoteQuery

namespace Lexing

variable {style : QuoteStyle}

/-! ## characters that nothing covers -/

/-- The open parentheses after a character outside of quotes. -/
def depthAfter (depth : Nat) (c : Char) : Nat :=
  if c = '(' then depth + 1 else if c = ')' then depth - 1 else depth

/-- The characters of a text that stand in no quotes and in no parentheses.  The outermost
parentheses themselves stay and the quotes do not; a doubled quote counts as a closing and an
opening one. -/
def uncovered (style : QuoteStyle) : Option Quoting → Nat → List Char → List Char
  | _, _, [] => []
  | some q, depth, c :: cs => uncovered style (if c = q.closing then none else some q) depth cs
  | none, depth, c :: cs =>
    match opened? style c with
    | some q => uncovered style (some q) depth cs
    | none =>
      let rest := uncovered style none (depthAfter depth c) cs
      if depth = 0 ∨ c = ')' ∧ depth = 1 then c :: rest else rest

/-- The characters of a statement that stand in no quotes and in no parentheses. -/
def surface (style : QuoteStyle) (sql : String) : List Char :=
  uncovered style none 0 sql.toList

theorem State.raise_zero (s : State) : s.raise 0 = s := by
  rw [State.raise, Nat.zero_add]

theorem uncovered_opening {c : Char} {q : Quoting} (h : opened? style c = some q) (depth : Nat)
    (cs : List Char) :
    uncovered style none depth (c :: cs) = uncovered style (some q) depth cs := by
  rw [uncovered, h]

theorem uncovered_plain {c : Char} (h : opened? style c = none) (depth : Nat) (cs : List Char) :
    uncovered style none depth (c :: cs) =
      (if depth = 0 ∨ c = ')' ∧ depth = 1 then [c] else []) ++
        uncovered style none (depthAfter depth c) cs := by
  rw [uncovered, h]
  dsimp only
  split <;> rfl

theorem depthAfter_of_step {m m' : Marks} {c : Char} (h : m.step c = some m') (depth : Nat) :
    depthAfter (depth + m.depth) c = depth + m'.depth := by
  unfold Marks.step at h
  unfold depthAfter
  grind

/-- What one character leaves does not depend on what follows, and inside of parentheses it is
nothing: a parenthesis that closes was opened by the text itself. -/
theorem uncovered_step {s s' : State} {c : Char} (h : step style s c = some s') (depth : Nat) :
    ∃ seen, (depth ≠ 0 → seen = []) ∧
      ∀ cs, uncovered style s.quote (depth + s.marks.depth) (c :: cs) =
        seen ++ uncovered style s'.quote (depth + s'.marks.depth) cs := by
  obtain ⟨quote, m⟩ := s
  cases quote with
  | some q =>
    cases h
    exact ⟨[], fun _ => rfl, fun _ => rfl⟩
  | none =>
    obtain ⟨m', hm', rfl⟩ := Option.map_eq_some_iff.1 h
    cases hopen : opened? style c with
    | some q =>
      rw [step_opened hopen] at hm'
      cases hm'
      exact ⟨[], fun _ => rfl, fun cs => uncovered_opening hopen _ cs⟩
    | none =>
      have hseen : ∀ cs, uncovered style none (depth + m.depth) (c :: cs) =
          (if depth + m.depth = 0 ∨ c = ')' ∧ depth + m.depth = 1 then [c] else []) ++
            uncovered style none (depth + m'.depth) cs := by
        intro cs
        rw [uncovered_plain hopen, depthAfter_of_step hm']
      refine ⟨_, fun hdepth => if_neg ?_, hseen⟩
      rintro (hzero | ⟨rfl, hone⟩)
      · omega
      · have hm : m.depth = 0 := by omega
        simp [Marks.step, hm] at hm'

/-- A text in two parts leaves what its parts leave. -/
theorem uncovered_append {s s' : State} {xs : List Char} (h : run style s xs = some s')
    (ys : List Char) :
    uncovered style s.quote s.marks.depth (xs ++ ys) =
      uncovered style s.quote s.marks.depth xs ++ uncovered style s'.quote s'.marks.depth ys := by
  induction xs generalizing s with
  | nil => cases h; rfl
  | cons c xs ih =>
    obtain ⟨s₁, hs₁, hrun⟩ := Option.bind_eq_some_iff.1 h
    obtain ⟨seen, -, hseen⟩ := uncovered_step hs₁ 0
    simp only [Nat.zero_add] at hseen
    rw [List.cons_append, hseen, hseen, ih hrun, List.append_assoc]

/-- A text that closes what it opens leaves nothing inside of parentheses. -/
theorem uncovered_deep {s s' : State} {cs : List Char} (h : run style s cs = some s')
    {depth : Nat} (hd : depth ≠ 0) : uncovered style s.quote (depth + s.marks.depth) cs = [] := by
  induction cs generalizing s with
  | nil => rw [uncovered]
  | cons c cs ih =>
    obtain ⟨s₁, hs₁, hrun⟩ := Option.bind_eq_some_iff.1 h
    obtain ⟨seen, hnone, hseen⟩ := uncovered_step hs₁ depth
    rw [hseen, hnone hd, ih hrun, List.append_nil]

/-- The style of identifiers does not matter to a text that quotes none. -/
theorem uncovered_neutral {quote : Option Quoting} {depth : Nat} {cs : List Char}
    (hq : quote = none ∨ quote = some stringQuoting) (hcs : ∀ c ∈ cs, Piece.isNeutral c = true) :
    uncovered style quote depth cs = uncovered .double quote depth cs := by
  induction cs generalizing quote depth with
  | nil => rw [uncovered, uncovered]
  | cons c cs ih =>
    rw [List.forall_mem_cons] at hcs
    obtain rfl | rfl := hq
    · have hopen : opened? style c = opened? .double c := by
        rw [opened_neutral hcs.1, opened_neutral hcs.1]
      cases hdouble : opened? .double c with
      | some q =>
        have hq : some q = none ∨ some q = some stringQuoting := by
          rw [← hdouble, opened_neutral hcs.1]
          split
          · exact .inr rfl
          · exact .inl rfl
        rw [uncovered_opening (hopen.trans hdouble), uncovered_opening hdouble, ih hq hcs.2]
      | none =>
        rw [uncovered_plain (hopen.trans hdouble), uncovered_plain hdouble, ih (.inl rfl) hcs.2]
    · rw [uncovered, uncovered]
      split
      · exact ih (.inl rfl) hcs.2
      · exact ih (.inr rfl) hcs.2

/-! ## quoted and bare texts -/

theorem uncovered_inner {q : Quoting} {depth : Nat} {cs : List Char} (h : q.closing ∉ cs)
    (rest : List Char) :
    uncovered style (some q) depth (cs ++ rest) = uncovered style (some q) depth rest := by
  induction cs with
  | nil => rfl
  | cons c cs ih =>
    rw [List.mem_cons, not_or] at h
    rw [List.cons_append, uncovered, if_neg (Ne.symm h.1), ih h.2]

theorem uncovered_double {q : Quoting} (hopen : opened? style q.closing = some q) (depth : Nat)
    (cs : List Char) :
    uncovered style (some q) depth (Text.double q.closing cs ++ [q.closing]) = [] := by
  induction cs with
  | nil => simp [Text.double, uncovered]
  | cons c cs ih =>
    rw [Text.double]
    split
    · rw [List.cons_append, List.cons_append, uncovered, if_pos rfl, uncovered_opening hopen, ih]
    next hc => rw [List.cons_append, uncovered, if_neg hc, ih]

theorem uncovered_stringLiteral (depth : Nat) (s : String) :
    uncovered style none depth (Text.stringLiteral s).toList = [] := by
  have hopen : opened? style stringQuoting.closing = some stringQuoting := rfl
  rw [Text.stringLiteral, Text.enclose, String.toList_ofList, List.cons_append]
  exact (uncovered_opening hopen depth _).trans (uncovered_double hopen depth s.toList)

/-- A character that neither quotes nor stands for a parenthesis. -/
def isBare (c : Char) : Bool :=
  c ∉ ['(', ')', '\'', '"', '\x60', '[']

theorem isNeutral_of_isBare {c : Char} (h : isBare c = true) : Piece.isNeutral c = true := by
  simp only [isBare, List.mem_cons, List.not_mem_nil, or_false, not_or, decide_eq_true_eq] at h
  simp [Piece.isNeutral, h]

theorem isBare_of_isPlain {c : Char} (h : isPlain c = true) : isBare c = true := by
  simp only [isPlain, List.mem_cons, List.not_mem_nil, or_false, not_or, decide_eq_true_eq] at h
  simp [isBare, h]

/-- A text without quotes and parentheses is left as it is. -/
theorem uncovered_bare {cs : List Char} (h : ∀ c ∈ cs, isBare c = true) :
    uncovered style none 0 cs = cs := by
  induction cs with
  | nil => rw [uncovered]
  | cons c cs ih =>
    rw [List.forall_mem_cons] at h
    have hc := h.1
    simp only [isBare, List.mem_cons, List.not_mem_nil, or_false, not_or, decide_eq_true_eq] at hc
    have hopen : opened? style c = none := by
      rw [opened_neutral (isNeutral_of_isBare h.1), if_neg hc.2.2.1]
    rw [uncovered_plain hopen, depthAfter, if_neg hc.1, if_neg hc.2.1, ih h.2]
    rfl

end Lexing

open Lexing

variable {style : QuoteStyle}

/-- A text that leaves no quote and no parenthesis open; its last character may be pending. -/
def Closes (style : QuoteStyle) (s : String) : Prop :=
  ∃ last, run style (.at 0) s.toList = some ⟨none, ⟨0, last⟩⟩

theorem Safe.closes {s : String} (h : Safe style s) : Closes style s :=
  ⟨.calm, h 0⟩

theorem surface_append {a : String} (ha : Closes style a) (b : String) :
    surface style (a ++ b) = surface style a ++ surface style b := by
  obtain ⟨last, hrun⟩ := ha
  rw [surface, String.toList_append]
  exact uncovered_append hrun b.toList

/-- Inside of parentheses, a safe text leaves nothing. -/
theorem Safe.uncovered_eq_nil {s : String} (h : Safe style s) {depth : Nat} (hd : depth ≠ 0) :
    uncovered style none depth s.toList = [] :=
  uncovered_deep (h 0) hd

/-! ## operators -/

/-- The operators that are written between operands. -/
def operators : List String :=
  ["AND", "OR", "LIKE", "ESCAPE", "BETWEEN", "IN", "IS", "=", "<>", "<", "<=", ">", ">=", "+", "-",
   "*", "/", "||", "%", "&", "|", "^", "#", "DIV", "MOD", "**"]

/-- Whether no comma stands in a text, and no operator and no negation as a word of its own. -/
def calm (cs : List Char) : Bool :=
  !cs.contains ',' &&
    (cs.splitOn ' ').all fun word => !(("NOT" :: operators).map String.toList).contains word

theorem calm_iff {cs : List Char} : calm cs = true ↔
    ',' ∉ cs ∧ ∀ word ∈ cs.splitOn ' ', word ∉ ("NOT" :: operators).map String.toList := by
  simp only [calm, Bool.and_eq_true, Bool.not_eq_true', List.all_eq_true, List.contains_eq_mem,
    decide_eq_false_iff_not]

/-- A character that no operator has. -/
def isForeign (c : Char) : Bool :=
  c.isDigit || c == '.' || c == '('

/-- A single word with a character that no operator has. -/
theorem calm_of_word {cs : List Char} {c : Char} (hspace : ' ' ∉ cs) (hcomma : ',' ∉ cs)
    (hc : c ∈ cs) (hforeign : isForeign c = true) : calm cs = true := by
  have hnone : (("NOT" :: operators).map String.toList).all
      (fun word => word.all fun d => !isForeign d) = true := by
    decide +kernel
  refine calm_iff.2 ⟨hcomma, fun word hword hmem => ?_⟩
  rw [List.splitOn_eq_singleton hspace, List.mem_singleton] at hword
  subst hword
  have hmissing := List.all_eq_true.1 (List.all_eq_true.1 hnone _ hmem) c hc
  rw [hforeign] at hmissing
  cases hmissing

/-! ## templates -/

namespace Piece

/-- What a piece leaves, whatever its parts are; `none` if that depends on them. -/
def shown (s : State) : Piece → Option (List Char)
  | fixed text => some (uncovered .double s.quote s.marks.depth text.toList)
  | part _ | parts _ _ => if s.marks.depth = 0 then none else some []
  | quoted _ | literal _ => some []

/-- What the pieces leave, whatever their parts are, if they close what they open. -/
def skeleton : State → List Piece → Option (List Char)
  | s, [] => if s = .at 0 then some [] else none
  | s, p :: ps =>
    (p.step s).bind fun s' => (p.shown s).bind fun seen => (skeleton s' ps).map (seen ++ ·)

/-- Whether pieces after an opening parenthesis close it with their last character. -/
def closesLast : State → List Piece → Bool
  | s, [fixed text] =>
    text.toList.all isNeutral && text.toList.getLast? = some ')' &&
      run .double s text.toList.dropLast = some (.at 0)
  | s, p :: ps => (p.step s).any fun s => closesLast s ps
  | _, [] => false

/-- Whether a fixed text stands at the front, and no quote and no parenthesis but one that closes at
the end. -/
def leads : List Piece → Bool
  | fixed text :: ps =>
    match text.toList with
    | [] => false
    | ['('] => closesLast (.at 0) ps
    | c :: _ => c != '\'' && c != '('
  | _ => false

/-- Whether the fixed texts close what they open, keep quoted texts apart and hold the parts
together, from the first character on. -/
def delimits (ps : List Piece) : Bool :=
  (skeleton (.at 0) ps).any calm && leads ps && apart .clear ps

theorem skeleton_cons {s : State} {p : Piece} {ps : List Piece} {cs : List Char}
    (h : skeleton s (p :: ps) = some cs) : ∃ s' seen rest, p.step s = some s' ∧
      p.shown s = some seen ∧ skeleton s' ps = some rest ∧ seen ++ rest = cs := by
  obtain ⟨s', hs', h⟩ := Option.bind_eq_some_iff.1 h
  obtain ⟨seen, hseen, h⟩ := Option.bind_eq_some_iff.1 h
  obtain ⟨rest, hrest, rfl⟩ := Option.map_eq_some_iff.1 h
  exact ⟨s', seen, rest, hs', hseen, hrest, rfl⟩

theorem through_of_skeleton {s : State} {ps : List Piece} {cs : List Char}
    (h : skeleton s ps = some cs) : through s ps = some (.at 0) := by
  induction ps generalizing s cs with
  | nil =>
    rw [skeleton] at h
    split at h
    next hs => rw [hs, through]
    next => cases h
  | cons p ps ih =>
    obtain ⟨s', _, _, hs', -, hrest, -⟩ := skeleton_cons h
    rw [through, hs']
    exact ih hrest

theorem exists_skeleton {ps : List Piece} (h : delimits ps = true) :
    ∃ cs, skeleton (.at 0) ps = some cs ∧ calm cs = true := by
  rw [delimits, Bool.and_eq_true, Bool.and_eq_true] at h
  replace h := h.1.1
  cases hcs : skeleton (.at 0) ps with
  | none => rw [hcs] at h; cases h
  | some cs => rw [hcs] at h; exact ⟨cs, rfl, h⟩

theorem closed_of_delimits {ps : List Piece} (h : delimits ps = true) : closed ps = true := by
  obtain ⟨cs, hcs, -⟩ := exists_skeleton h
  rw [closed, Bool.and_eq_true]
  exact ⟨decide_eq_true (through_of_skeleton hcs), (Bool.and_eq_true_iff.1 h).2⟩

/-- A piece leaves what is shown of it. -/
theorem uncovered_text {s s' : State} {p : Piece} {seen : List Char} (hs : s.Neutral)
    (h : p.step s = some s') (hseen : p.shown s = some seen)
    (hparts : ∀ t ∈ contents [p], Safe style t) (hinner : ∀ t ∈ inner [p], '\'' ∉ t.toList) :
    uncovered style s.quote s.marks.depth p.text.toList = seen := by
  have hcovered : ∀ {text : String}, s = .at s.marks.depth → Safe style text →
      (if s.marks.depth = 0 then none else some []) = some seen →
      uncovered style s.quote s.marks.depth text.toList = seen := by
    intro text hat htext hseen
    obtain ⟨hdepth, hseen⟩ := Option.ite_none_left_eq_some.1 hseen
    cases hseen
    rw [hat]
    exact htext.uncovered_eq_nil hdepth
  cases p with
  | fixed text =>
    cases hseen
    obtain ⟨hall, -⟩ := Option.ite_none_right_eq_some.1 h
    exact uncovered_neutral hs (List.all_eq_true.1 hall)
  | part text =>
    obtain ⟨hat, -⟩ := Option.ite_none_right_eq_some.1 h
    exact hcovered hat (hparts text List.mem_cons_self) hseen
  | parts separator texts =>
    obtain ⟨⟨hat, hsep⟩, -⟩ := Option.ite_none_right_eq_some.1 h
    have hsep : Safe style separator := fun depth => (run_fixed (.inl rfl) hsep depth).1
    exact hcovered hat
      (hsep.intercalate fun text ht => hparts text (by simpa [contents] using ht)) hseen
  | quoted text =>
    cases hseen
    obtain ⟨hquote, -⟩ := Option.ite_none_right_eq_some.1 h
    have hinside : stringQuoting.closing ∉ text.toList := hinner text List.mem_cons_self
    rw [hquote, Piece.text, ← List.append_nil text.toList, uncovered_inner hinside, uncovered]
  | literal text =>
    cases hseen
    obtain ⟨hat, -⟩ := Option.ite_none_right_eq_some.1 h
    rw [hat]
    exact uncovered_stringLiteral _ text

/-- A template leaves its skeleton. -/
theorem uncovered_join {s : State} {ps : List Piece} {cs : List Char} (hs : s.Neutral)
    (h : skeleton s ps = some cs) (hparts : ∀ t ∈ contents ps, Safe style t)
    (hinner : ∀ t ∈ inner ps, '\'' ∉ t.toList) :
    uncovered style s.quote s.marks.depth (join ps).toList = cs := by
  rw [toList_join]
  induction ps generalizing s cs with
  | nil =>
    rw [skeleton] at h
    split at h
    next hat =>
      cases h
      rw [hat, List.flatMap_nil, uncovered]
    next => cases h
  | cons p ps ih =>
    rw [contents_cons] at hparts
    rw [inner_cons] at hinner
    obtain ⟨s', seen, rest, hs', hseen, hrest, rfl⟩ := skeleton_cons h
    have hpart : ∀ t ∈ contents [p], Safe style t := fun t ht =>
      hparts t (List.mem_append_left _ ht)
    have hquoted : ∀ t ∈ inner [p], '\'' ∉ t.toList := fun t ht =>
      hinner t (List.mem_append_left _ ht)
    obtain ⟨hrun, hneutral⟩ := run_text hs hs' hpart hquoted 0
    rw [State.raise_zero, State.raise_zero] at hrun
    rw [List.flatMap_cons, uncovered_append hrun, uncovered_text hs hs' hseen hpart hquoted]
    rw [ih hneutral hrest (fun t ht => hparts t (List.mem_append_right _ ht))
      fun t ht => hinner t (List.mem_append_right _ ht)]

theorem surface_join (ps : List Piece) {cs : List Char} (h : skeleton (.at 0) ps = some cs)
    (hparts : ∀ t ∈ contents ps, Safe style t) (hinner : ∀ t ∈ inner ps, '\'' ∉ t.toList) :
    surface style (join ps) = cs :=
  uncovered_join (.inl rfl) h hparts hinner

/-- A template that holds its parts together leaves no operator. -/
theorem calm_join (ps : List Piece) (h : delimits ps = true)
    (hparts : ∀ t ∈ contents ps, Safe style t) (hinner : ∀ t ∈ inner ps, '\'' ∉ t.toList) :
    calm (surface style (join ps)) = true := by
  obtain ⟨cs, hcs, hcalm⟩ := exists_skeleton h
  rw [surface_join ps hcs hparts hinner, hcalm]

end Piece

/-! ## texts that hold together -/

/-- Whether a text is the name of a function: letters, digits, underscores and points. -/
def isName (name : String) : Bool :=
  name.toList.all fun c => c.isAlphanum || c == '_' || c == '.'

theorem isPlain_of_isName {name : String} (h : isName name = true) :
    ∀ c ∈ name.toList, isPlain c = true := by
  intro c hc
  have hchar := List.all_eq_true.1 h c hc
  simp only [Bool.or_eq_true, beq_iff_eq] at hchar
  obtain (hchar | rfl) | rfl := hchar
  · exact isPlain_of_isAlphanum hchar
  · rfl
  · rfl

theorem Piece.closed_of_isName {name : String} (h : isName name = true) :
    closed [.fixed name] = true := by
  have hplain := isPlain_of_isName h
  have hneutral : name.toList.all isNeutral = true :=
    List.all_eq_true.2 fun c hc => isNeutral_of_isBare (isBare_of_isPlain (hplain c hc))
  have hrun : run .double (.at 0) name.toList = some (.at 0) := safe_of_plain hplain 0
  have hthrough : through (.at 0) [.fixed name] = some (.at 0) := by
    rw [through, step, runFixed, if_pos hneutral, hrun]
    rfl
  have hedge : Edge.run .clear name.toList = some .clear := Edge.run_plain hplain
  simp [closed, hthrough, apart, Edge.add, hedge]

/-- A text that comes about by templates from others and holds them together. -/
inductive Delimited (Given : String → Prop) : String → Prop
  | template (ps : List Piece) (h : Piece.delimits ps = true)
      (hparts : ∀ s ∈ Piece.contents ps, Assembled Given s)
      (hinner : ∀ s ∈ Piece.inner ps, Text.Verbatim s) : Delimited Given (Piece.join ps)
  /-- A call, whatever its name is. -/
  | named {name body : String} (hname : isName name = true) (hbody : Assembled Given body) :
      Delimited Given (name ++ "(" ++ body ++ ")")

namespace Delimited

variable {Given : String → Prop}

/-- A template without quoted parts. -/
theorem of_pieces (ps : List Piece) (h : Piece.delimits ps = true) (hnone : Piece.inner ps = [])
    (hparts : ∀ s ∈ Piece.contents ps, Assembled Given s) : Delimited Given (Piece.join ps) :=
  .template ps h hparts (by simp [hnone])

/-- A fixed text. -/
theorem word {s : String} (h : Piece.delimits [.fixed s] = true) : Delimited Given s :=
  of_pieces [.fixed s] h rfl (by simp [Piece.contents])

theorem assembled {s : String} (h : Delimited Given s) : Assembled Given s := by
  cases h with
  | template ps h hparts hinner => exact .template ps (Piece.closed_of_delimits h) hparts hinner
  | @named name body hname hbody =>
    have hname : Assembled Given name := .word (Piece.closed_of_isName hname)
    exact .of_pieces [.part name, .fixed "(", .part body, .fixed ")"] rfl rfl
      (by simp [Piece.contents, hname, hbody])

/-- What is held together from safe texts is safe. -/
theorem safe {s : String} (h : Delimited Given s) (hgiven : ∀ t, Given t → Safe style t) :
    Safe style s :=
  h.assembled.safe hgiven

theorem calm_named {name body : String} (hname : isName name = true) (hbody : Safe style body) :
    calm (surface style (name ++ "(" ++ body ++ ")")) = true := by
  have hplain := isPlain_of_isName hname
  have hleft : surface style name = name.toList :=
    uncovered_bare fun c hc => isBare_of_isPlain (hplain c hc)
  have hright : surface style ("(" ++ body ++ ")") = ['(', ')'] :=
    Piece.surface_join [.fixed "(", .part body, .fixed ")"] rfl
      (by simpa [Piece.contents] using hbody) (by simp [Piece.inner])
  rw [String.append_assoc, String.append_assoc, surface_append (safe_of_plain hplain).closes,
    hleft, ← String.append_assoc, hright]
  have hmissing : ∀ c ∈ [' ', ','], c ∉ name.toList := by
    intro c hc hmem
    have hchar := List.all_eq_true.1 hname c hmem
    obtain rfl | rfl : c = ' ' ∨ c = ',' := by simpa using hc
    · contradiction
    · contradiction
  have hspace : ' ' ∉ name.toList := hmissing ' ' (by decide)
  have hcomma : ',' ∉ name.toList := hmissing ',' (by decide)
  exact calm_of_word (c := '(') (by simp [hspace]) (by simp [hcomma]) (by simp) rfl

/-- What is held together from safe texts leaves no operator. -/
theorem calm {s : String} (h : Delimited Given s) (hgiven : ∀ t, Given t → Safe style t) :
    calm (surface style s) = true := by
  cases h with
  | template ps h hparts hinner =>
    exact Piece.calm_join ps h (fun t ht => (hparts t ht).safe hgiven) fun t ht => (hinner t ht).1
  | named hname hbody => exact calm_named hname (hbody.safe hgiven)

end Delimited

end RemoteQuery
