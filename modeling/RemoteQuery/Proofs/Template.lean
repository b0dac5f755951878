import RemoteQuery.Proofs.Lexing
import RemoteQuery.Proofs.Numerals

/-!
# RemoteQuery.Proofs.Template

Texts that are put together from fixed words and parts.  Whether the fixed words
of a template close what they open, and keep quoted texts apart, does not depend
on the parts, so it is decided by evaluation.  A text is assembled from others if
it comes about by such templates; it then inherits what holds of them.

* `Piece.closed` — the decision for a template;
* `Assembled` — how a text comes about;
* `Assembled.safe` — a text assembled from texts that close what they open does
  so itself.
-/

namespace RemoteQuery

open Lexing

/-- A text that closes what it opens and leaves nothing pending, wherever it starts. -/
def Safe (style : QuoteStyle) (s : String) : Prop :=
  ∀ depth, run style (.at depth) s.toList = some (.at depth)

/-- A piece of a template. -/
inductive Piece where
  | fixed (text : String)
  | part (text : String)
  /-- Several parts with a fixed separator. -/
  | parts (separator : String) (texts : List String)
  /-- A part that stands inside the quotes of a string. -/
  | quoted (text : String)
  /-- A part that is the string literal of a text. -/
  | literal (text : String)

namespace Piece

def text : Piece → String
  | fixed s | part s | quoted s => s
  | parts separator ss => separator.intercalate ss
  | literal s => Text.stringLiteral s

/-- The pieces one after the other. -/
def join : List Piece → String
  | [] => ""
  | p :: ps => ps.foldl (fun s q => s ++ q.text) p.text

/-- The parts that stand outside of quotes. -/
def contents : List Piece → List String
  | [] => []
  | part s :: ps => s :: contents ps
  | parts _ ss :: ps => ss ++ contents ps
  | literal s :: ps => Text.stringLiteral s :: contents ps
  | _ :: ps => contents ps

/-- The parts that stand inside of quotes. -/
def inner : List Piece → List String
  | [] => []
  | quoted s :: ps => s :: inner ps
  | _ :: ps => inner ps

/-- A character that quotes no identifier in any style. -/
def isNeutral (c : Char) : Bool :=
  c != '"' && c != '\x60' && c != '['

/-- A fixed text; since it quotes no identifier, the style does not matter. -/
def runFixed (s : State) (text : String) : Option State :=
  if text.toList.all isNeutral = true then run .double s text.toList else none

/-- The state after a piece, whatever its parts are. -/
def step (s : State) : Piece → Option State
  | fixed text => runFixed s text
  | part _ | literal _ => if s = .at s.marks.depth then some s else none
  | parts separator _ =>
    if s = .at s.marks.depth ∧ runFixed (.at 0) separator = some (.at 0) then some s else none
  | quoted _ => if s.quote = some stringQuoting then some s else none

def through : State → List Piece → Option State
  | s, [] => some s
  | s, p :: ps => (p.step s).bind fun s => through s ps

/-- What stands at the end of a text. -/
inductive Edge where
  | clear
  /-- Possibly the closing quote of a name or a string. -/
  | ended
  /-- A string that has no quote and no backslash so far. -/
  | inside
deriving DecidableEq

/-- One more character; `none` for a quote right after a quoted text or around a name, and for a
backslash in a string. -/
def Edge.step (e : Edge) (c : Char) : Option Edge :=
  match e with
  | clear => if c = '\'' then some inside else if isNeutral c then some clear else none
  | ended => if c = '\'' then none else if isNeutral c then some clear else none
  | inside => if c = '\'' then some ended else if c = '\\' then none else some inside

/-- More characters. -/
def Edge.run : Edge → List Char → Option Edge
  | e, [] => some e
  | e, c :: cs => (e.step c).bind fun e => run e cs

/-- One more piece, whatever its parts are; each of them could start and end with a quoted text. -/
def Edge.add (e : Edge) : Piece → Option Edge
  | fixed text => e.run text.toList
  | part _ | literal _ => if e = .clear then some .ended else none
  | parts separator _ =>
    if e = .clear ∧ run .ended separator.toList = some .clear then some .ended else none
  | quoted _ => if e = .inside then some .inside else none

/-- Whether no quoted text starts where another one ends, and none stays open. -/
def apart : Edge → List Piece → Bool
  | e, [] => e ≠ .inside
  | e, p :: ps => (e.add p).any fun e => apart e ps

/-- Whether the fixed texts close what they open, with parts only where parts may stand, and keep
quoted texts apart. -/
def closed (ps : List Piece) : Bool :=
  through (.at 0) ps = some (.at 0) && apart .clear ps

end Piece

/-- A text that comes about by templates from others and from numbers. -/
inductive Assembled (Given : String → Prop) : String → Prop
  | given {s : String} (h : Given s) : Assembled Given s
  | numeral {s : String} (h : Text.IsNumeral s.toList) : Assembled Given s
  | template (ps : List Piece) (h : Piece.closed ps = true)
      (hparts : ∀ s ∈ Piece.contents ps, Assembled Given s)
      (hinner : ∀ s ∈ Piece.inner ps, Text.Verbatim s) : Assembled Given (Piece.join ps)
  /-- A text and another one that a blank sets apart from it, or none. -/
  | follow {a b : String} (ha : Assembled Given a) (hb : Assembled Given b)
      (h : b = "" ∨ b.toList.head? = some ' ') : Assembled Given (a ++ b)

namespace Assembled

variable {Given : String → Prop}

/-- A template without quoted parts. -/
theorem of_pieces (ps : List Piece) (h : Piece.closed ps = true) (hnone : Piece.inner ps = [])
    (hparts : ∀ s ∈ Piece.contents ps, Assembled Given s) : Assembled Given (Piece.join ps) :=
  .template ps h hparts (by simp [hnone])

/-- A fixed text. -/
theorem word {s : String} (h : Piece.closed [.fixed s] = true) : Assembled Given s :=
  of_pieces [.fixed s] h rfl (by simp [Piece.contents])

/-- A text between quotes that has none and no backslash. -/
theorem quoted {s : String} (h : Text.Verbatim s) : Assembled Given ("'" ++ s ++ "'") :=
  .template [.fixed "'", .quoted s, .fixed "'"] rfl (by simp [Piece.contents])
    (by simpa [Piece.inner] using h)

end Assembled

/-! ## soundness -/

namespace Lexing

variable {style : QuoteStyle}

/-- The state in a text that stands `depth` parentheses deep. -/
def State.raise (depth : Nat) (s : State) : State :=
  ⟨s.quote, ⟨depth + s.marks.depth, s.marks.last⟩⟩

theorem step_raise {s s' : State} {c : Char} (h : step style s c = some s') (depth : Nat) :
    step style (s.raise depth) c = some (s'.raise depth) := by
  obtain ⟨quote, m⟩ := s
  cases quote with
  | some q =>
    cases h
    rfl
  | none =>
    obtain ⟨m', hm', rfl⟩ := Option.map_eq_some_iff.1 h
    have hstep : Marks.step ⟨depth + m.depth, m.last⟩ c = some ⟨depth + m'.depth, m'.last⟩ := by
      unfold Marks.step at hm' ⊢
      grind
    simp only [step, State.raise, hstep, Option.map_some]

theorem run_raise {s s' : State} {cs : List Char} (h : run style s cs = some s') (depth : Nat) :
    run style (s.raise depth) cs = some (s'.raise depth) := by
  induction cs generalizing s with
  | nil =>
    cases h
    rfl
  | cons c cs ih =>
    obtain ⟨s₁, hs₁, hrun⟩ := Option.bind_eq_some_iff.1 h
    rw [run, step_raise hs₁]
    exact ih hrun

/-- In a text that quotes no identifier, at most a string is open. -/
def State.Neutral (s : State) : Prop :=
  s.quote = none ∨ s.quote = some stringQuoting

theorem opened_neutral {c : Char} (h : Piece.isNeutral c = true) :
    opened? style c = if c = '\'' then some stringQuoting else none := by
  have hc : c ≠ style.opening := by
    simp only [Piece.isNeutral, Bool.and_eq_true, bne_iff_ne] at h
    cases style with
    | double => exact h.1.1
    | backtick => exact h.1.2
    | bracket => exact h.2
  rw [opened?, if_neg hc]

theorem step_neutral {s s' : State} {c : Char} (hs : s.Neutral) (hc : Piece.isNeutral c = true)
    (h : step .double s c = some s') : step style s c = some s' ∧ s'.Neutral := by
  obtain ⟨quote, m⟩ := s
  obtain rfl | rfl := hs
  · obtain ⟨m', hm', rfl⟩ := Option.map_eq_some_iff.1 h
    simp only [step, hm', Option.map_some, opened_neutral hc, true_and]
    by_cases hq : c = '\''
    · exact .inr (if_pos hq)
    · exact .inl (if_neg hq)
  · cases h
    refine ⟨rfl, ?_⟩
    by_cases hq : c = stringQuoting.closing
    · exact .inl (if_pos hq)
    · exact .inr (if_neg hq)

/-- The style of identifiers does not matter to a text that quotes none. -/
theorem run_neutral {s s' : State} {cs : List Char} (hs : s.Neutral)
    (hcs : ∀ c ∈ cs, Piece.isNeutral c = true) (h : run .double s cs = some s') :
    run style s cs = some s' ∧ s'.Neutral := by
  induction cs generalizing s with
  | nil =>
    cases h
    exact ⟨rfl, hs⟩
  | cons c cs ih =>
    rw [List.forall_mem_cons] at hcs
    obtain ⟨s₁, hs₁, hrun⟩ := Option.bind_eq_some_iff.1 h
    have hstep : step style s c = some s₁ ∧ s₁.Neutral := step_neutral hs hcs.1 hs₁
    rw [run, hstep.1]
    exact ih hstep.2 hcs.2 hrun

/-- A text without quotes stays inside of a string. -/
theorem run_inner {q : Quoting} {m : Marks} {cs : List Char} (h : q.closing ∉ cs) :
    run style ⟨some q, m⟩ cs = some ⟨some q, m⟩ := by
  induction cs with
  | nil => rfl
  | cons c cs ih =>
    rw [List.mem_cons, not_or] at h
    have hstep : step style ⟨some q, m⟩ c = some ⟨some q, m⟩ := by
      simp [step, Ne.symm h.1]
    rw [run, hstep]
    exact ih h.2

end Lexing

variable {style : QuoteStyle}

theorem Safe.append {a b : String} (ha : Safe style a) (hb : Safe style b) :
    Safe style (a ++ b) := by
  intro depth
  rw [String.toList_append, run_append, ha, Option.bind_some, hb]

theorem Safe.empty : Safe style "" :=
  fun _ => rfl

/-- Safe parts with a safe separator. -/
theorem Safe.intercalate {separator : String} {texts : List String} (hsep : Safe style separator)
    (h : ∀ text ∈ texts, Safe style text) : Safe style (separator.intercalate texts) := by
  induction texts with
  | nil => exact .empty
  | cons text texts ih =>
    rw [List.forall_mem_cons] at h
    cases texts with
    | nil =>
      rw [String.intercalate_singleton]
      exact h.1
    | cons text' texts =>
      rw [String.intercalate_cons_cons]
      exact (h.1.append hsep).append (ih h.2)

/-- A doubled text and its closing quote lead out of the quotes. -/
theorem run_double {q : Quoting} {m : Marks} (hs : Settled style (some q) m)
    (hd : q.doubled = true) (cs : List Char) :
    run style ⟨some q, m⟩ (Text.double q.closing cs ++ [q.closing]) = some ⟨none, m⟩ := by
  have hclose : step style ⟨some q, m⟩ q.closing = some ⟨none, m⟩ := by simp [step]
  induction cs with
  | nil =>
    rw [Text.double, List.nil_append, run, hclose]
    rfl
  | cons c cs ih =>
    rw [Text.double]
    split
    next hc =>
      have hopen : step style ⟨none, m⟩ q.closing = some ⟨some q, m⟩ := by
        simp only [step, hs.step_closing, (hs q rfl).1.opened hd, Option.map_some]
      rw [List.cons_append, List.cons_append, run, hclose, Option.bind_some, run, hopen]
      exact ih
    next hc =>
      have hstay : step style ⟨some q, m⟩ c = some ⟨some q, m⟩ := by simp [step, hc]
      rw [List.cons_append, run, hstay]
      exact ih

theorem safe_stringLiteral (s : String) : Safe style (Text.stringLiteral s) := by
  intro depth
  have hopen : step style (.at depth) '\'' = some ⟨some stringQuoting, ⟨depth, .calm⟩⟩ := by
    cases style <;> rfl
  have hs : Settled style (some stringQuoting) ⟨depth, .calm⟩ := by
    intro q hq
    cases hq
    exact ⟨.inl rfl, rfl⟩
  rw [Text.stringLiteral, Text.enclose, String.toList_ofList, List.cons_append, run, hopen]
  exact run_double hs rfl s.toList

namespace Piece

theorem foldl_text (ps : List Piece) (s : String) :
    (ps.foldl (fun s q => s ++ q.text) s).toList =
      s.toList ++ ps.flatMap fun q => q.text.toList := by
  induction ps generalizing s with
  | nil => simp
  | cons p ps ih => rw [List.foldl_cons, ih, String.toList_append, List.append_assoc,
      List.flatMap_cons]

theorem toList_join (ps : List Piece) : (join ps).toList = ps.flatMap fun q => q.text.toList := by
  cases ps with
  | nil => rfl
  | cons p ps => rw [join, foldl_text, List.flatMap_cons]

theorem run_fixed {s s' : State} {text : String} (hs : s.Neutral)
    (h : runFixed s text = some s') (depth : Nat) :
    run style (s.raise depth) text.toList = some (s'.raise depth) ∧ s'.Neutral := by
  rw [runFixed] at h
  split at h
  next hall =>
    obtain ⟨hrun, hs'⟩ : run style s text.toList = some s' ∧ s'.Neutral :=
      run_neutral hs (List.all_eq_true.1 hall) h
    exact ⟨run_raise hrun depth, hs'⟩
  next => cases h

/-- A piece takes the state where its step says, at any depth. -/
theorem run_text {s s' : State} {p : Piece} (hs : s.Neutral) (h : p.step s = some s')
    (hparts : ∀ t ∈ contents [p], Safe style t) (hinner : ∀ t ∈ inner [p], '\'' ∉ t.toList)
    (depth : Nat) :
    run style (s.raise depth) p.text.toList = some (s'.raise depth) ∧ s'.Neutral := by
  cases p with
  | fixed text => exact run_fixed hs h depth
  | part text =>
    obtain ⟨hat, h⟩ := Option.ite_none_right_eq_some.1 h
    cases h
    refine ⟨?_, hs⟩
    rw [hat]
    exact hparts text List.mem_cons_self _
  | parts separator texts =>
    obtain ⟨⟨hat, hsep⟩, h⟩ := Option.ite_none_right_eq_some.1 h
    cases h
    refine ⟨?_, hs⟩
    have hsep : Safe style separator := fun depth => (run_fixed (.inl rfl) hsep depth).1
    rw [hat]
    exact hsep.intercalate (fun text ht => hparts text (by simpa [contents] using ht)) _
  | quoted text =>
    obtain ⟨hquote, h⟩ := Option.ite_none_right_eq_some.1 h
    cases h
    refine ⟨?_, hs⟩
    rw [State.raise, hquote]
    exact run_inner (hinner text List.mem_cons_self)
  | literal text =>
    obtain ⟨hat, h⟩ := Option.ite_none_right_eq_some.1 h
    cases h
    refine ⟨?_, hs⟩
    rw [hat]
    exact hparts _ List.mem_cons_self _

theorem contents_cons (p : Piece) (ps : List Piece) :
    contents (p :: ps) = contents [p] ++ contents ps := by
  cases p <;> simp [contents]

theorem inner_cons (p : Piece) (ps : List Piece) : inner (p :: ps) = inner [p] ++ inner ps := by
  cases p <;> simp [inner]

theorem run_join {s s' : State} {ps : List Piece} (hs : s.Neutral) (h : through s ps = some s')
    (hparts : ∀ t ∈ contents ps, Safe style t) (hinner : ∀ t ∈ inner ps, '\'' ∉ t.toList)
    (depth : Nat) : run style (s.raise depth) (join ps).toList = some (s'.raise depth) := by
  rw [toList_join]
  induction ps generalizing s with
  | nil =>
    cases h
    rfl
  | cons p ps ih =>
    rw [contents_cons] at hparts
    rw [inner_cons] at hinner
    obtain ⟨s₁, hs₁, hps⟩ := Option.bind_eq_some_iff.1 h
    obtain ⟨hrun, hneutral⟩ := run_text hs hs₁ (fun t ht => hparts t (List.mem_append_left _ ht))
      (fun t ht => hinner t (List.mem_append_left _ ht)) depth
    rw [List.flatMap_cons, run_append, hrun, Option.bind_some]
    exact ih hneutral hps (fun t ht => hparts t (List.mem_append_right _ ht))
      fun t ht => hinner t (List.mem_append_right _ ht)

/-- A closed template of safe parts is safe. -/
theorem safe_join (ps : List Piece) (h : closed ps = true)
    (hparts : ∀ t ∈ contents ps, Safe style t) (hinner : ∀ t ∈ inner ps, '\'' ∉ t.toList) :
    Safe style (join ps) :=
  fun depth =>
    run_join (.inl rfl) (of_decide_eq_true (Bool.and_eq_true_iff.1 h).1) hparts hinner depth

/-- A closed template of safe parts, none of them quoted, is safe. -/
theorem safe_parts (ps : List Piece) (h : closed ps = true) (hnone : inner ps = [])
    (hparts : ∀ t ∈ contents ps, Safe style t) : Safe style (join ps) :=
  safe_join ps h hparts (by simp [hnone])

end Piece

/-- A fixed text that closes what it opens. -/
theorem safe_word {s : String} (h : Piece.closed [.fixed s] = true) : Safe style s :=
  Piece.safe_parts [.fixed s] h rfl (by simp [Piece.contents])

/-! ## numbers and bare texts -/

/-- A character that neither quotes nor marks anything. -/
def isPlain (c : Char) : Bool :=
  c ∉ ['(', ')', ';', '-', '/', '*', '\'', '"', '\x60', '[']

theorem isNeutral_of_isPlain {c : Char} (h : isPlain c = true) :
    Piece.isNeutral c = true ∧ c ≠ '\'' := by
  simp only [isPlain, List.mem_cons, List.not_mem_nil, or_false, not_or, decide_eq_true_eq] at h
  simp [Piece.isNeutral, h]

theorem run_plain {c : Char} (h : isPlain c = true) (m : Marks) (cs : List Char) :
    run style ⟨none, m⟩ (c :: cs) = run style (.at m.depth) cs := by
  have hmarks : m.step c = some ⟨m.depth, .calm⟩ := by
    refine step_of_notMem fun hc => of_decide_eq_true h ?_
    simp only [List.mem_cons, List.not_mem_nil, or_false] at hc ⊢
    grind
  have hneutral := isNeutral_of_isPlain h
  rw [run, step, hmarks, Option.map_some, opened_neutral hneutral.1, if_neg hneutral.2]
  rfl

theorem safe_of_plain {s : String} (h : ∀ c ∈ s.toList, isPlain c = true) : Safe style s := by
  intro depth
  generalize s.toList = cs at h
  induction cs with
  | nil => rfl
  | cons c cs ih =>
    rw [List.forall_mem_cons] at h
    rw [State.at, run_plain h.1]
    exact ih h.2

theorem isPlain_of_isAlphanum {c : Char} (h : c.isAlphanum = true) : isPlain c = true := by
  refine decide_eq_true fun hc => ?_
  simp only [List.mem_cons, List.not_mem_nil, or_false] at hc
  obtain rfl | rfl | rfl | rfl | rfl | rfl | rfl | rfl | rfl | rfl := hc <;> contradiction

theorem isPlain_of_isDigit {c : Char} (h : c.isDigit = true) : isPlain c = true :=
  isPlain_of_isAlphanum (by simp [Char.isAlphanum, h])

theorem safe_of_signedDigits {s : String} (h : Text.SignedDigits s.toList) : Safe style s := by
  intro depth
  generalize s.toList = cs at h
  induction h with
  | nil => rfl
  | @plain c cs hc _ ih =>
    have hplain : isPlain c = true := by
      obtain hc | rfl | rfl := hc
      · exact isPlain_of_isDigit hc
      · rfl
      · rfl
    rw [State.at, run_plain hplain]
    exact ih
  | @sign c cs hc _ ih =>
    have hsign : run style (.at depth) ('-' :: c :: cs) =
        run style ⟨none, ⟨depth, .dash⟩⟩ (c :: cs) := by
      cases style <;> rfl
    rw [hsign, run_plain (isPlain_of_isDigit hc)]
    exact ih

/-- A text that neither quotes nor marks anything stays clear of quoted texts. -/
theorem Piece.Edge.run_plain {cs : List Char} (h : ∀ c ∈ cs, isPlain c = true) :
    run .clear cs = some .clear := by
  induction cs with
  | nil => rfl
  | cons c cs ih =>
    rw [List.forall_mem_cons] at h
    obtain ⟨hneutral, hquote⟩ := isNeutral_of_isPlain h.1
    rw [run, step, if_neg hquote, if_pos hneutral]
    exact ih h.2

/-- What is assembled from safe texts is safe. -/
theorem Assembled.safe {Given : String → Prop} {s : String} (h : Assembled Given s)
    (hgiven : ∀ t, Given t → Safe style t) : Safe style s := by
  induction h with
  | given h => exact hgiven _ h
  | numeral h => exact safe_of_signedDigits h.signedDigits
  | template ps h _ hinner ih => exact Piece.safe_join ps h ih fun t ht => (hinner t ht).1
  | follow _ _ _ iha ihb => exact iha.append ihb

end RemoteQuery
