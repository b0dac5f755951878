import RemoteQuery.Target.Identifier

/-!
# RemoteQuery.Proofs.Lexing

What a statement looks like to a reader that knows only quotes.  `scan` leaves
out what stands between quotes; a statement is lexically safe if it ends outside
of quotes and if what remains has balanced parentheses and neither ends a
statement nor starts a comment.

Scanning looks one character ahead, to tell a doubled quote from a closing one.
`run` does not: it takes a doubled quote for a closing quote and an opening one.
It therefore runs through texts one after the other, and it keeps count of the
parentheses on the way.

* `run_append` — a text in two parts is run through part by part;
* `lexicallySafe_of_run` — a statement that is run through and leaves no
  parenthesis open is lexically safe.
-/

namespace RemoteQuery.Lexing

/-! ## scanning -/

/-- How an open quote is closed. -/
structure Quoting where
  closing : Char
  /-- Whether the closing quote, written twice, stands for itself. -/
  doubled : Bool
deriving DecidableEq

/-- The quoting of string literals. -/
def stringQuoting : Quoting := ⟨'\'', true⟩

/-- The quoting of identifiers. -/
def identifierQuoting : QuoteStyle → Quoting
  | .bracket => ⟨QuoteStyle.bracket.closing, false⟩
  | style => ⟨style.closing, true⟩

/-- The quote that a character opens. -/
def opened? (style : QuoteStyle) (c : Char) : Option Quoting :=
  if c = '\'' then some stringQuoting
  else if c = style.opening then some (identifierQuoting style)
  else none

/-- The characters outside of quotes, the quotes included, and the quote that is open at the end. -/
def scan (style : QuoteStyle) : Option Quoting → List Char → List Char × Option Quoting
  | q, [] => ([], q)
  | none, c :: cs =>
    let (outside, q) := scan style (opened? style c) cs
    (c :: outside, q)
  | some q, [c] => if c = q.closing then ([c], none) else ([], some q)
  | some q, c :: d :: cs =>
    if c = q.closing then
      if q.doubled = true ∧ d = q.closing then scan style (some q) cs
      else
        let (outside, q) := scan style none (d :: cs)
        (c :: outside, q)
    else scan style (some q) (d :: cs)

/-- The characters of a statement outside of quotes, the quotes included. -/
def outside (style : QuoteStyle) (sql : String) : List Char :=
  (scan style none sql.toList).1

/-- No quote stays open, parentheses outside of quotes match, and outside of quotes no statement
ends and no comment starts. -/
structure LexicallySafe (style : QuoteStyle) (sql : String) : Prop where
  endsOutside : (scan style none sql.toList).2 = none
  neverNegative : ∀ front, front <+: outside style sql → front.count ')' ≤ front.count '('
  balanced : (outside style sql).count '(' = (outside style sql).count ')'
  noSemicolon : ';' ∉ outside style sql
  noDashes : ¬['-', '-'] <:+: outside style sql
  noComment : ¬['/', '*'] <:+: outside style sql

/-! ## running -/

/-- What the last character could be the start of. -/
inductive Last where
  | calm
  | dash
  | slash
deriving DecidableEq

/-- The open parentheses and the last character. -/
structure Marks where
  depth : Nat
  last : Last
deriving DecidableEq

/-- One character outside of quotes; `none` if it closes too much, ends a statement or starts a
comment. -/
def Marks.step (m : Marks) (c : Char) : Option Marks :=
  if c = '(' then some ⟨m.depth + 1, .calm⟩
  else if c = ')' then
    match m.depth with
    | 0 => none
    | depth + 1 => some ⟨depth, .calm⟩
  else if c = ';' then none
  else if c = '-' then if m.last = .dash then none else some ⟨m.depth, .dash⟩
  else if c = '/' then some ⟨m.depth, .slash⟩
  else if c = '*' then if m.last = .slash then none else some ⟨m.depth, .calm⟩
  else some ⟨m.depth, .calm⟩

/-- The open quote and the marks outside of it. -/
structure State where
  quote : Option Quoting
  marks : Marks
deriving DecidableEq

/-- Outside of quotes, after nothing that could start a comment. -/
def State.at (depth : Nat) : State := ⟨none, ⟨depth, .calm⟩⟩

/-- One character. -/
def step (style : QuoteStyle) (s : State) (c : Char) : Option State :=
  match s.quote with
  | none => (s.marks.step c).map fun m => ⟨opened? style c, m⟩
  | some q => some ⟨if c = q.closing then none else some q, s.marks⟩

/-- A text, character by character. -/
def run (style : QuoteStyle) : State → List Char → Option State
  | s, [] => some s
  | s, c :: cs => (step style s c).bind fun s => run style s cs

variable {style : QuoteStyle}

theorem run_append (s : State) (xs ys : List Char) :
    run style s (xs ++ ys) = (run style s xs).bind fun s => run style s ys := by
  induction xs generalizing s with
  | nil => rfl
  | cons c xs ih =>
    rw [List.cons_append, run, run]
    cases step style s c with
    | none => rfl
    | some s => exact ih s

/-! ## running and scanning -/

/-- The marks of characters that all stand outside of quotes. -/
def check : Marks → List Char → Option Marks
  | m, [] => some m
  | m, c :: cs => (m.step c).bind fun m => check m cs

/-- The quotings a scan can meet. -/
def Known (style : QuoteStyle) (q : Quoting) : Prop :=
  q = stringQuoting ∨ q = identifierQuoting style

theorem known_of_opened {c : Char} {q : Quoting} (h : opened? style c = some q) :
    Known style q := by
  rw [opened?] at h
  split at h
  · exact .inl (Option.some.inj h).symm
  · split at h
    · exact .inr (Option.some.inj h).symm
    · cases h

/-- A quote that may be doubled opens where it closed. -/
theorem Known.opened {q : Quoting} (h : Known style q) (hd : q.doubled = true) :
    opened? style q.closing = some q := by
  obtain rfl | rfl := h
  · rfl
  · cases style with
    | double | backtick => rfl
    | bracket => contradiction

/-- No quote is a mark. -/
theorem step_of_notMem {m : Marks} {c : Char} (h : c ∉ ['(', ')', ';', '-', '/', '*']) :
    m.step c = some ⟨m.depth, .calm⟩ := by
  simp only [List.mem_cons, List.not_mem_nil, or_false, not_or] at h
  obtain ⟨h₁, h₂, h₃, h₄, h₅, h₆⟩ := h
  rw [Marks.step, if_neg h₁, if_neg h₂, if_neg h₃, if_neg h₄, if_neg h₅, if_neg h₆]

theorem step_opened {c : Char} {q : Quoting} (h : opened? style c = some q) (m : Marks) :
    m.step c = some ⟨m.depth, .calm⟩ := by
  refine step_of_notMem ?_
  rw [opened?] at h
  split at h
  next hc =>
    rw [hc]
    decide
  next =>
    split at h
    next hc =>
      rw [hc]
      cases style <;> decide
    next => cases h

theorem Known.step_closing {q : Quoting} (h : Known style q) (m : Marks) :
    m.step q.closing = some ⟨m.depth, .calm⟩ := by
  refine step_of_notMem ?_
  obtain rfl | rfl := h
  · decide
  · cases style <;> decide

/-- Inside of a known quote nothing is pending. -/
def Settled (style : QuoteStyle) (quote : Option Quoting) (m : Marks) : Prop :=
  ∀ q, quote = some q → Known style q ∧ m.last = .calm

theorem settled_opened {c : Char} {m m' : Marks} (h : m.step c = some m') :
    Settled style (opened? style c) m' := by
  intro q hq
  rw [step_opened hq] at h
  cases h
  exact ⟨known_of_opened hq, rfl⟩

theorem Settled.step_closing {q : Quoting} {m : Marks} (h : Settled style (some q) m) :
    m.step q.closing = some m := by
  obtain ⟨hk, hl⟩ := h q rfl
  rw [hk.step_closing, ← hl]

/-- A run ends in the quote where the scan ends, with the marks of what the scan found outside. -/
theorem scan_of_run {quote : Option Quoting} {m : Marks} {s' : State} {cs : List Char}
    (hs : Settled style quote m) (h : run style ⟨quote, m⟩ cs = some s') :
    (scan style quote cs).2 = s'.quote ∧ check m (scan style quote cs).1 = some s'.marks := by
  fun_induction scan style quote cs generalizing m with
  | case1 => cases h; exact ⟨rfl, rfl⟩
  | case2 c cs outside q heq ih =>
    obtain ⟨s₁, hs₁, hrun⟩ := Option.bind_eq_some_iff.1 h
    obtain ⟨m₁, hm₁, rfl⟩ := Option.map_eq_some_iff.1 hs₁
    have hscan := ih (settled_opened hm₁) hrun
    rw [heq] at hscan
    rw [check, hm₁]
    exact hscan
  | case3 q =>
    have hstep : step style ⟨some q, m⟩ q.closing = some ⟨none, m⟩ := by simp [step]
    rw [run, hstep] at h
    cases h
    rw [check, hs.step_closing]
    exact ⟨rfl, rfl⟩
  | case4 q c hc =>
    have hstep : step style ⟨some q, m⟩ c = some ⟨some q, m⟩ := by simp [step, hc]
    rw [run, hstep] at h
    cases h
    exact ⟨rfl, rfl⟩
  | case5 q d cs hd ih =>
    -- The run leaves the quote at its first half and enters it again at the second.
    obtain ⟨hdouble, rfl⟩ := hd
    have hopen := (hs q rfl).1.opened hdouble
    have hfirst : step style ⟨some q, m⟩ q.closing = some ⟨none, m⟩ := by simp [step]
    have hsecond : step style ⟨none, m⟩ q.closing = some ⟨some q, m⟩ := by
      simp only [step, hs.step_closing, hopen, Option.map_some]
    rw [run, hfirst, Option.bind_some, run, hsecond] at h
    exact ih hs h
  | case6 q d cs hd outside q' heq ih =>
    have hstep : step style ⟨some q, m⟩ q.closing = some ⟨none, m⟩ := by simp [step]
    rw [run, hstep] at h
    have hscan := ih (fun _ hq => nomatch hq) h
    rw [heq] at hscan
    rw [check, hs.step_closing]
    exact hscan
  | case7 q c d cs hc ih =>
    have hstep : step style ⟨some q, m⟩ c = some ⟨some q, m⟩ := by simp [step, hc]
    rw [run, hstep] at h
    exact ih hs h

/-! ## marks -/

variable {m m' : Marks} {cs : List Char}

/-- What one character outside of quotes can do. -/
theorem step_cases {c : Char} (h : m.step c = some m') :
    c ≠ ';' ∧ m.depth + [c].count '(' = m'.depth + [c].count ')' ∧
      (c = '-' → m.last ≠ .dash ∧ m'.last = .dash) ∧ (c = '/' → m'.last = .slash) ∧
      (c = '*' → m.last ≠ .slash) := by
  unfold Marks.step at h
  split at h
  · next hc => cases h; subst hc; simp
  split at h
  · next hc =>
    subst hc
    split at h
    · cases h
    · next depth hd => cases h; simp [hd]
  split at h
  · cases h
  split at h
  · next hc =>
    split at h
    · cases h
    · next hl => cases h; subst hc; simp [hl]
  split at h
  · next hc => cases h; subst hc; simp
  split at h
  · next hc =>
    split at h
    · cases h
    · next hl => cases h; subst hc; simp [hl]
  · next h₁ h₂ h₃ h₄ h₅ h₆ => cases h; simp [h₁, h₂, h₃, h₄, h₅, h₆]

theorem check_cons {c : Char} (h : check m (c :: cs) = some m') :
    ∃ m₁, m.step c = some m₁ ∧ check m₁ cs = some m' :=
  Option.bind_eq_some_iff.1 h

/-- A parenthesis that is open at the end was open before or was opened, and was not closed. -/
theorem depth_of_check (h : check m cs = some m') :
    m.depth + cs.count '(' = m'.depth + cs.count ')' := by
  induction cs generalizing m with
  | nil => cases h; rfl
  | cons c cs ih =>
    obtain ⟨m₁, hm₁, hcs⟩ := check_cons h
    have hstep := (step_cases hm₁).2.1
    have htail := ih hcs
    rw [← List.singleton_append, List.count_append, List.count_append]
    omega

theorem check_of_prefix {front : List Char} (h : check m cs = some m') (hp : front <+: cs) :
    ∃ m₁, check m front = some m₁ := by
  induction cs generalizing m front with
  | nil =>
    rw [List.prefix_nil.1 hp]
    exact ⟨m, rfl⟩
  | cons c cs ih =>
    obtain ⟨m₁, hm₁, hcs⟩ := check_cons h
    obtain rfl | ⟨front, rfl, hfront⟩ := List.prefix_cons_iff.1 hp
    · exact ⟨m, rfl⟩
    · obtain ⟨m₂, hm₂⟩ := ih hcs hfront
      exact ⟨m₂, by rw [check, hm₁]; exact hm₂⟩

theorem semicolon_notMem_of_check (h : check m cs = some m') : ';' ∉ cs := by
  induction cs generalizing m with
  | nil => exact List.not_mem_nil
  | cons c cs ih =>
    obtain ⟨m₁, hm₁, hcs⟩ := check_cons h
    rw [List.mem_cons, not_or]
    exact ⟨Ne.symm (step_cases hm₁).1, ih hcs⟩

/-- A pair of characters stands at the front of a text or later in it. -/
theorem pair_infix_cons {a b c : Char} : [a, b] <:+: c :: cs ↔
    (c = a ∧ cs.head? = some b) ∨ [a, b] <:+: cs := by
  rw [List.infix_cons_iff, List.cons_prefix_cons, eq_comm, List.singleton_prefix_iff_head?_eq_some]

theorem no_dashes_of_check (h : check m cs = some m') :
    (m.last = .dash → cs.head? ≠ some '-') ∧ ¬['-', '-'] <:+: cs := by
  induction cs generalizing m with
  | nil => simp
  | cons c cs ih =>
    obtain ⟨m₁, hm₁, hcs⟩ := check_cons h
    obtain ⟨-, -, hdash, -, -⟩ := step_cases hm₁
    obtain ⟨hhead, htail⟩ := ih hcs
    refine ⟨fun hl he => ?_, fun hp => ?_⟩
    · exact (hdash (Option.some.inj he)).1 hl
    · obtain ⟨hc, he⟩ | hp := pair_infix_cons.1 hp
      · exact hhead (hdash hc).2 he
      · exact htail hp

theorem no_comment_of_check (h : check m cs = some m') :
    (m.last = .slash → cs.head? ≠ some '*') ∧ ¬['/', '*'] <:+: cs := by
  induction cs generalizing m with
  | nil => simp
  | cons c cs ih =>
    obtain ⟨m₁, hm₁, hcs⟩ := check_cons h
    obtain ⟨-, -, -, hslash, hstar⟩ := step_cases hm₁
    obtain ⟨hhead, htail⟩ := ih hcs
    refine ⟨fun hl he => ?_, fun hp => ?_⟩
    · exact hstar (Option.some.inj he) hl
    · obtain ⟨hc, he⟩ | hp := pair_infix_cons.1 hp
      · exact hhead (hslash hc) he
      · exact htail hp

/-- A statement that is run through and leaves nothing open is lexically safe. -/
theorem lexicallySafe_of_run {sql : String}
    (h : run style (.at 0) sql.toList = some (.at 0)) : LexicallySafe style sql := by
  have hsettled : Settled style none ⟨0, .calm⟩ := fun _ hq => nomatch hq
  obtain ⟨hquote, hcheck⟩ := scan_of_run hsettled h
  have hcheck : check ⟨0, .calm⟩ (outside style sql) = some ⟨0, .calm⟩ := hcheck
  refine ⟨hquote, fun front hp => ?_, ?_, ?_, ?_, ?_⟩
  · obtain ⟨m₁, hm₁⟩ := check_of_prefix hcheck hp
    have hdepth := depth_of_check hm₁
    simp only at hdepth
    omega
  · have hdepth := depth_of_check hcheck
    simpa using hdepth
  · exact semicolon_notMem_of_check hcheck
  · exact (no_dashes_of_check hcheck).2
  · exact (no_comment_of_check hcheck).2

end RemoteQuery.Lexing
