import RemoteQuery.Proofs.Reading

/-!
# RemoteQuery.Proofs.ReadingBack

Which texts the reader of native text reads, and as what: one lemma for every
form an operand or a condition is written in.  The readers of nested operands
are arbitrary here; what is assumed of them is only that they read the operands
of the form at hand.

* `condition_*` — conditions, from the texts of their operands;
* `group_condition`, `group_connective` — what stands in parentheses;
* `operandWith_*` — operands, by their first character or word.
-/

namespace RemoteQuery.Reading

open Reader

variable {operand : Reader NormalForm} {rest text : List Char} {e : NormalForm}

/-! ## what follows -/

theorem endsCondition_iff : endsCondition rest = true ↔ endsOperand rest = true ∧
    choose Test.word Test.all rest = none ∧ skip " ESCAPE ".toList rest = none := by
  simp only [endsCondition, Bool.and_eq_true, Option.isNone_iff_eq_none, and_assoc]

theorem choose_test (t : Test) (cs : List Char) :
    choose Test.word Test.all (t.word.toList ++ cs) = some (t, cs) := by
  cases t with
  | compare op => cases op <;> rfl
  | isNull negated => cases negated <;> rfl
  | like | between | inList => rfl

theorem choose_connective (c : Connective) (cs : List Char) :
    choose Connective.word Connective.all (c.word.toList ++ cs) = some (c, cs) := by
  cases c <;> rfl

theorem choose_direction (d : Bool × Bool) (cs : List Char) :
    choose directionWord directions ((directionWord d).toList ++ cs) = some (d, cs) := by
  match d with
  | (true, true) | (true, false) | (false, true) | (false, false) => rfl

theorem endsOperand_test (t : Test) (cs : List Char) :
    endsOperand (t.word.toList ++ cs) = true := by
  cases t with
  | compare op => cases op <;> rfl
  | isNull negated => cases negated <;> rfl
  | like | between | inList => rfl

theorem endsCondition_connective (c : Connective) (cs : List Char) :
    endsCondition (c.word.toList ++ cs) = true := by
  cases c <;> rfl

theorem endsCondition_direction (d : Bool × Bool) (cs : List Char) :
    endsCondition ((directionWord d).toList ++ cs) = true := by
  match d with
  | (true, true) | (true, false) | (false, true) | (false, false) => rfl

/-! ## conditions -/

/-- An operand is a condition when no test follows. -/
theorem condition_operand (h : operand.Reads endsOperand text e) :
    (condition operand).Reads endsCondition text e := by
  intro rest hrest
  obtain ⟨hends, htest, _⟩ := endsCondition_iff.1 hrest
  simp only [condition, h rest hends, htest, Option.bind_eq_bind, Option.bind_some]

/-- An operand and a test are read one after the other. -/
theorem condition_test (h : operand.Reads endsOperand text e) (t : Test) (cs : List Char) :
    condition operand (text ++ t.word.toList ++ cs) = test operand e t cs := by
  simp only [condition, List.append_assoc, h _ (endsOperand_test t cs), choose_test,
    Option.bind_eq_bind, Option.bind_some]

theorem condition_compare {left right : List Char} {l r : NormalForm} (op : CompareOp)
    (hl : operand.Reads endsOperand left l) (hr : operand.Reads endsOperand right r) :
    (condition operand).Reads endsCondition (left ++ (Test.compare op).word.toList ++ right)
      (.compare op l r) := by
  intro rest hrest
  rw [List.append_assoc, condition_test hl]
  simp only [test, hr rest (endsCondition_iff.1 hrest).1, Option.bind_eq_bind, Option.bind_some]

theorem condition_like {subject pattern : List Char} {s p : NormalForm}
    (hs : operand.Reads endsOperand subject s) (hp : operand.Reads endsOperand pattern p) :
    (condition operand).Reads endsCondition (subject ++ Test.like.word.toList ++ pattern)
      (.like s p) := by
  intro rest hrest
  obtain ⟨hends, _, hescape⟩ := endsCondition_iff.1 hrest
  rw [List.append_assoc, condition_test hs]
  simp only [test, hp rest hends, hescape, Option.bind_eq_bind, Option.bind_some]

theorem condition_likeEscape {subject pattern escape : List Char} {s p x : NormalForm}
    (hs : operand.Reads endsOperand subject s) (hp : operand.Reads endsOperand pattern p)
    (hx : operand.Reads endsOperand escape x) :
    (condition operand).Reads endsCondition
      (subject ++ Test.like.word.toList ++ (pattern ++ " ESCAPE ".toList ++ escape))
      (.likeEscape s p x) := by
  intro rest hrest
  rw [List.append_assoc, condition_test hs, List.append_assoc, List.append_assoc]
  simp only [test, hp (" ESCAPE ".toList ++ (escape ++ rest)) rfl, skip_append,
    hx rest (endsCondition_iff.1 hrest).1, Option.bind_eq_bind, Option.bind_some]

theorem condition_between {subject low high : List Char} {s l h : NormalForm}
    (hs : operand.Reads endsOperand subject s) (hl : operand.Reads endsOperand low l)
    (hh : operand.Reads endsOperand high h) :
    (condition operand).Reads endsCondition
      (subject ++ Test.between.word.toList ++ (low ++ " AND ".toList ++ high))
      (.between s l h) := by
  intro rest hrest
  rw [List.append_assoc, condition_test hs, List.append_assoc, List.append_assoc]
  simp only [test, hl (" AND ".toList ++ (high ++ rest)) rfl, skip_append,
    hh rest (endsCondition_iff.1 hrest).1, Option.bind_eq_bind, Option.bind_some]

theorem condition_inList {subject : List Char} {texts : List (List Char)} {s : NormalForm}
    {values : List NormalForm} (hs : operand.Reads endsOperand subject s)
    (hv : List.Forall₂ (operand.Reads endsOperand) texts values) (hne : texts ≠ []) :
    (condition operand).Reads endsCondition
      (subject ++ Test.inList.word.toList ++ (", ".toList.intercalate texts ++ ")".toList))
      (.inList s values) := by
  intro rest _
  have hlist : separated operand ", " (", ".toList.intercalate texts ++ (")".toList ++ rest)) =
      some (values, ")".toList ++ rest) :=
    separated_append hv hne (by decide) (fun _ => rfl) rfl rfl
  rw [List.append_assoc, condition_test hs, List.append_assoc]
  simp only [test, hlist, skip_append, Option.bind_eq_bind, Option.bind_some]

theorem condition_isNull {subject : List Char} {s : NormalForm} (negated : Bool)
    (hs : operand.Reads endsOperand subject s) :
    (condition operand).Reads endsCondition (subject ++ (Test.isNull negated).word.toList)
      (.isNull s negated) := by
  intro rest _
  rw [condition_test hs]
  rfl

/-! ## parentheses -/

/-- A condition in parentheses. -/
theorem group_condition (h : (condition operand).Reads endsCondition text e) (cs : List Char) :
    group operand (text ++ ")".toList ++ cs) = some (e, cs) := by
  have hnone : choose Connective.word Connective.all (")".toList ++ cs) = none := rfl
  simp only [group, List.append_assoc, h (")".toList ++ cs) rfl, hnone, skip_append,
    Option.bind_eq_bind, Option.bind_some]

/-- Two or more conditions with a connective between them. -/
theorem group_connective (c : Connective) {texts : List (List Char)} {es : List NormalForm}
    (h : List.Forall₂ ((condition operand).Reads endsCondition) texts es)
    (hlen : 2 ≤ texts.length) (cs : List Char) :
    group operand (c.word.toList.intercalate texts ++ ")".toList ++ cs) =
      some (c.combine es, cs) := by
  obtain _ | ⟨he, hes⟩ := h
  · simp at hlen
  obtain _ | ⟨he', hes⟩ := hes
  · simp at hlen
  have hnone : skip c.word.toList (")".toList ++ cs) = none := by cases c <;> rfl
  have hne : c.word.toList ≠ [] := by cases c <;> decide
  have htail := separated_append (.cons he' hes) (List.cons_ne_nil _ _) hne
    (endsCondition_connective c) rfl hnone
  rw [List.intercalate_cons_cons]
  simp only [group, List.append_assoc, he _ (endsCondition_connective c _), choose_connective,
    htail, skip_append, Option.bind_eq_bind, Option.bind_some]

/-! ## words, names and literals -/

theorem head_ne_of_endsOperand {c : Char} (hrest : endsOperand rest = true)
    (hc : (c == ' ' || c == ',' || c == ')') = false) : rest.head? ≠ some c := by
  cases rest with
  | nil => simp
  | cons d cs =>
    intro h
    cases h
    simp [endsOperand, hc] at hrest

/-- Whether a text is a capital letter followed by letters, digits and underscores. -/
def isWord : List Char → Bool
  | [] => false
  | c :: cs => c.isUpper && cs.all isWordChar

theorem isWordChar_of_isUpper {c : Char} (h : c.isUpper = true) : isWordChar c = true := by
  have hletter : c.isAlphanum = true :=
    CaseHandling.isAlphanum_of_keepsLetter (h := .foldUpper) h
  simp [isWordChar, hletter]

theorem ne_of_isUpper {c d : Char} (hc : c.isUpper = true) (hd : d.isUpper = false) : c ≠ d := by
  rintro rfl
  simp [hc] at hd

theorem exists_of_isWord {w : List Char} (h : isWord w = true) :
    ∃ c cs, w = c :: cs ∧ c.isUpper = true := by
  match w with
  | c :: cs => exact ⟨c, cs, rfl, (Bool.and_eq_true_iff.1 h).1⟩

theorem isWordChar_of_isWord {w : List Char} (h : isWord w = true) :
    ∀ c ∈ w, isWordChar c = true := by
  match w with
  | c :: cs =>
    simp only [isWord, Bool.and_eq_true, List.all_eq_true] at h
    exact List.forall_mem_cons.2 ⟨isWordChar_of_isUpper h.1, h.2⟩

/-- Whether no word goes on and no quote follows. -/
def endsName (cs : List Char) : Bool :=
  cs.head?.all fun c => !isWordChar c && c != '"'

theorem endsName_of_endsOperand (hrest : endsOperand rest = true) : endsName rest = true := by
  cases rest with
  | nil => rfl
  | cons c cs =>
    simp only [endsOperand, Bool.or_eq_true, beq_iff_eq] at hrest
    obtain (rfl | rfl) | rfl := hrest <;> rfl

theorem span_word {w : List Char} (h : isWord w = true) (hrest : endsName rest = true) :
    (w ++ rest).span isWordChar = (w, rest) := by
  refine span_append (isWordChar_of_isWord h) ?_
  cases rest with
  | nil => rfl
  | cons c cs =>
    simp only [endsName, List.head?_cons, Option.all_some, Bool.and_eq_true] at hrest ⊢
    exact hrest.1

/-- A word at the front is read as a whole. -/
theorem operandWith_word {w : List Char} (h : isWord w = true) (hrest : endsName rest = true) :
    operandWith operand (w ++ rest) = afterWord operand (String.ofList w) rest := by
  have hspan := span_word h hrest
  obtain ⟨c, cs, rfl, hc⟩ := exists_of_isWord h
  have hdigit : c.isDigit = false := by
    have hupper : 'A'.val ≤ c.val := (of_decide_eq_true hc).1
    refine Bool.and_eq_false_iff.2 (.inr (decide_eq_false fun hle => ?_))
    exact absurd (UInt32.le_trans hupper hle) (by decide)
  rw [List.cons_append] at hspan ⊢
  rw [operandWith, if_neg (ne_of_isUpper hc rfl), if_neg (ne_of_isUpper hc rfl),
    if_neg (ne_of_isUpper hc rfl), if_neg fun h => ne_of_isUpper hc rfl h.1,
    if_neg (by simp [ne_of_isUpper hc, hdigit]), hspan]

theorem afterWord_dot (w : String) (cs : List Char) : afterWord operand w (".".toList ++ cs) =
    (identifier cs).map fun (name, rest) => (.column w name, rest) :=
  rfl

theorem afterWord_paren (w : String) (cs : List Char) :
    afterWord operand w ("(".toList ++ cs) = call operand w cs :=
  rfl

/-- A keyword is known by the word at the front. -/
theorem operandWith_keyword (k : Keyword) (hrest : endsOperand rest = true) :
    operandWith operand ((Vocabulary.word k).toList ++ rest) = keyword operand k rest := by
  have hword : isWord (Vocabulary.word k).toList = true := by cases k <;> rfl
  rw [operandWith_word hword (endsName_of_endsOperand hrest), String.ofList_toList, afterWord]
  · rw [Vocabulary.ofWord?_word, Option.bind_some]
  · rintro cs rfl
    contradiction
  · rintro cs rfl
    contradiction

theorem toList_stringLiteral (s : String) :
    (Text.stringLiteral s).toList = '\'' :: (Text.double '\'' s.toList ++ ['\'']) := by
  rw [Text.stringLiteral, Text.enclose, String.toList_ofList, List.cons_append]

theorem quoted_string (s : String) (hrest : endsOperand rest = true) :
    quoted '\'' (Text.double '\'' s.toList ++ '\'' :: rest) = some (s.toList, rest) :=
  quoted_append s.toList (head_ne_of_endsOperand hrest rfl)

/-! ## negations -/

theorem operandWith_not (h : (condition operand).Reads endsCondition text e) :
    (operandWith operand).Reads endsOperand ("NOT (".toList ++ text ++ ")".toList) (.not e) := by
  intro rest _
  have htext : "NOT (".toList ++ text ++ ")".toList ++ rest =
      (Vocabulary.word Keyword.not).toList ++ (" (".toList ++ (text ++ ")".toList ++ rest)) := by
    simp [Vocabulary.word]
  rw [htext, operandWith_keyword .not rfl]
  simp only [keyword, skip_append, group_condition h rest, Option.bind_eq_bind, Option.bind_some]

/-! ## columns -/

theorem toList_quote (s : String) :
    (QuoteStyle.double.quote s).toList = '"' :: (Text.double '"' s.toList ++ ['"']) := by
  rw [QuoteStyle.quote, Text.enclose, String.toList_ofList]
  rfl

theorem isWord_of_isSimple {s : String} (h : CaseHandling.foldUpper.isSimple s = true) :
    isWord s.toList = true := by
  have hchars := CaseHandling.alphanum_of_isSimple h
  rw [CaseHandling.isSimple] at h
  split at h
  next => contradiction
  next c cs hs =>
    rw [hs, List.forall_mem_cons] at hchars
    rw [hs, isWord, Bool.and_eq_true, List.all_eq_true]
    refine ⟨(Bool.and_eq_true_iff.1 h).1, fun d hd => ?_⟩
    rw [isWordChar, Bool.or_eq_true, beq_iff_eq]
    exact hchars.2 d hd

/-- A native name is a word or stands in double quotes. -/
theorem identifierText_native (s : String) :
    (Dialect.Native.target.profile.identifierText s = s ∧ isWord s.toList = true) ∨
      (Dialect.Native.target.profile.identifierText s).toList =
        '"' :: (Text.double '"' s.toList ++ ['"']) := by
  rw [Profile.identifierText]
  split
  next h =>
    rw [Bool.and_eq_true] at h
    exact .inl ⟨rfl, isWord_of_isSimple h.1⟩
  next => exact .inr (toList_quote s)

theorem identifier_append (s : String) (hrest : endsName rest = true) :
    identifier ((Dialect.Native.target.profile.identifierText s).toList ++ rest) =
      some (s, rest) := by
  obtain ⟨heq, hword⟩ | heq := identifierText_native s
  · have hspan := span_word hword hrest
    obtain ⟨c, cs, hs, hc⟩ := exists_of_isWord hword
    rw [heq, hs, List.cons_append, identifier, if_neg (ne_of_isUpper hc rfl), ← List.cons_append,
      ← hs, hspan]
    simp only [String.ofList_toList]
  · have hq : rest.head? ≠ some '"' := by
      intro h
      simp [endsName, h] at hrest
    rw [heq, List.cons_append, List.append_assoc, List.singleton_append, identifier, if_pos rfl,
      quoted_append s.toList hq]
    simp only [Option.map_some, String.ofList_toList]

theorem operandWith_column (c : ColumnRef) :
    (operandWith operand).Reads endsOperand (Dialect.Native.target.plainColumn c).toList
      (.column c.qualifier c.metadata.name) := by
  intro rest hrest
  have hname := identifier_append c.metadata.name (endsName_of_endsOperand hrest)
  rw [Target.plainColumn, String.toList_append, String.toList_append, List.append_assoc,
    List.append_assoc]
  obtain ⟨heq, hword⟩ | heq := identifierText_native c.qualifier
  · rw [heq, operandWith_word hword rfl, String.ofList_toList, afterWord_dot, hname,
      Option.map_some]
  · have hquote : (".".toList ++ ((Dialect.Native.target.profile.identifierText
        c.metadata.name).toList ++ rest)).head? ≠ some '"' := by simp
    rw [heq, List.cons_append, List.append_assoc, List.singleton_append, operandWith,
      if_neg (by decide), if_neg (by decide), if_pos rfl, quoted_append c.qualifier.toList hquote]
    simp only [skip_append, hname, Option.bind_eq_bind, Option.bind_some, String.ofList_toList]

/-! ## literals -/

theorem operandWith_string (s : String) :
    (operandWith operand).Reads endsOperand (Text.stringLiteral s).toList
      (.literal (some (Text.stringLiteral s))) := by
  intro rest hrest
  rw [toList_stringLiteral, List.cons_append, List.append_assoc, List.singleton_append,
    operandWith, if_neg (by decide), if_pos rfl, quoted_string s hrest]
  simp only [Option.map_some, String.ofList_toList]

theorem isNumberChar_of_mem {cs : List Char} (h : Text.SignedDigits cs) :
    ∀ c ∈ cs, isNumberChar c = true := by
  induction h with
  | nil => exact fun c hc => absurd hc List.not_mem_nil
  | plain h _ ih =>
    refine List.forall_mem_cons.2 ⟨?_, ih⟩
    obtain h | rfl | rfl := h
    · simp [isNumberChar, h]
    · rfl
    · rfl
  | sign h _ ih =>
    refine List.forall_mem_cons.2 ⟨rfl, List.forall_mem_cons.2 ⟨?_, ih⟩⟩
    simp [isNumberChar, h]

theorem operandWith_number {number : String} (h : Text.IsNumeral number.toList) :
    (operandWith operand).Reads endsOperand number.toList (.literal (some number)) := by
  intro rest hrest
  have hends : rest.head?.all (fun c => !isNumberChar c) = true := by
    cases rest with
    | nil => rfl
    | cons c cs =>
      simp only [endsOperand, Bool.or_eq_true, beq_iff_eq] at hrest
      obtain (rfl | rfl) | rfl := hrest <;> rfl
  have hspan := span_append (isNumberChar_of_mem h.signedDigits) hends
  have hne : ∀ {c d : Char}, c.isDigit = true → d.isDigit = false → c ≠ d := by
    rintro c d hc hd rfl
    simp [hc] at hd
  obtain ⟨c, cs, hcs, hc, -⟩ | ⟨_, hcs, c, cs, rfl, hc, -⟩ := h
  · rw [hcs, List.cons_append] at hspan ⊢
    rw [operandWith, if_neg (hne hc rfl), if_neg (hne hc rfl), if_neg (hne hc rfl),
      if_neg fun h => hne hc rfl h.1, if_pos (.inr hc), hspan]
    simp only [← hcs, String.ofList_toList]
  · rw [hcs, List.cons_append, List.cons_append] at hspan ⊢
    rw [operandWith, if_neg (by decide), if_neg (by decide), if_neg (by decide),
      if_neg (by simpa using hne hc rfl), if_pos (.inl rfl), hspan]
    simp only [← hcs, String.ofList_toList]

theorem operandWith_null : (operandWith operand).Reads endsOperand "NULL".toList
    (.literal (some "NULL")) :=
  fun _ hrest => operandWith_keyword .null hrest

theorem operandWith_bool (b : Bool) :
    (operandWith operand).Reads endsOperand (if b then "TRUE" else "FALSE").toList
      (.literal (some (if b then "TRUE" else "FALSE"))) := by
  cases b with
  | true => exact fun _ hrest => operandWith_keyword .true hrest
  | false => exact fun _ hrest => operandWith_keyword .false hrest

theorem moment_append {s : String} (opening : String) (h : '\'' ∉ s.toList)
    (hrest : endsOperand rest = true) :
    moment opening (" '".toList ++ (s.toList ++ '\'' :: rest)) =
      some (.literal (some (opening ++ s ++ "'")), rest) := by
  have hquoted := quoted_string s hrest
  rw [Text.double_of_notMem h] at hquoted
  simp only [moment, skip_append, hquoted, Option.bind_eq_bind, Option.bind_some,
    String.ofList_toList]

theorem operandWith_date (d : Date) :
    (operandWith operand).Reads endsOperand ("DATE '" ++ d.text ++ "'").toList
      (.literal (some ("DATE '" ++ d.text ++ "'"))) := by
  intro rest hrest
  have htext : ("DATE '" ++ d.text ++ "'").toList ++ rest =
      (Vocabulary.word Keyword.date).toList ++
        (" '".toList ++ (d.text.toList ++ '\'' :: rest)) := by
    simp [Vocabulary.word]
  rw [htext, operandWith_keyword .date rfl]
  exact moment_append "DATE '" d.verbatim_text.1 hrest

theorem operandWith_timestamp (t : Timestamp) :
    (operandWith operand).Reads endsOperand ("TIMESTAMP '" ++ t.millisecondText ++ "'").toList
      (.literal (some ("TIMESTAMP '" ++ t.millisecondText ++ "'"))) := by
  intro rest hrest
  have htext : ("TIMESTAMP '" ++ t.millisecondText ++ "'").toList ++ rest =
      (Vocabulary.word Keyword.timestamp).toList ++
        (" '".toList ++ (t.millisecondText.toList ++ '\'' :: rest)) := by
    simp [Vocabulary.word]
  rw [htext, operandWith_keyword .timestamp rfl]
  exact moment_append "TIMESTAMP '" t.verbatim_text.1 hrest

/-- What follows the value of an interval. -/
def unitsText : IntervalKind → String
  | .yearToMonth p => " YEAR(" ++ toString p.toNat ++ ") TO MONTH"
  | .dayToSecond p f => " DAY(" ++ toString p.toNat ++ ") TO SECOND(" ++ toString f.toNat ++ ")"

theorem intervalUnits_append (kind : IntervalKind) (rest : List Char) :
    intervalUnits ((unitsText kind).toList ++ rest) = some (unitsText kind, rest) := by
  have hspan : ∀ (n : Nat) (cs : List Char),
      ((toString n).toList ++ (")".toList ++ cs)).span Char.isDigit =
        ((toString n).toList, ")".toList ++ cs) := by
    intro n cs
    refine span_append (fun c hc => ?_) rfl
    exact Text.isDigit_of_mem_digits (by simpa using hc)
  cases kind with
  | yearToMonth p =>
    have htext : (unitsText (.yearToMonth p)).toList ++ rest =
        " YEAR(".toList ++ ((toString p.toNat).toList ++ (")".toList ++
          (" TO MONTH".toList ++ rest))) := by
      simp [unitsText]
    have hskip : skip ") TO MONTH".toList (")".toList ++ (" TO MONTH".toList ++ rest)) =
        some rest := skip_append ") TO MONTH".toList rest
    rw [htext, intervalUnits, skip_append]
    simp only [hspan, hskip, Option.bind_eq_bind, Option.bind_some, String.ofList_toList]
    rfl
  | dayToSecond p f =>
    have htext : (unitsText (.dayToSecond p f)).toList ++ rest =
        " DAY(".toList ++ ((toString p.toNat).toList ++ (")".toList ++
          (" TO SECOND(".toList ++ ((toString f.toNat).toList ++ (")".toList ++ rest))))) := by
      simp [unitsText]
    have hyear : ∀ cs, skip " YEAR(".toList (" DAY(".toList ++ cs) = none := fun _ => rfl
    have hskip : ∀ cs, skip ") TO SECOND(".toList (")".toList ++ (" TO SECOND(".toList ++ cs)) =
        some cs := fun cs => skip_append ") TO SECOND(".toList cs
    rw [htext, intervalUnits, hyear]
    simp only [skip_append, hspan, hskip, Option.bind_eq_bind, Option.bind_some,
      String.ofList_toList]
    rfl

theorem standardInterval_eq (value : String) (kind : IntervalKind) :
    standardInterval value kind = "INTERVAL " ++ Text.stringLiteral value ++ unitsText kind := by
  refine String.toList_inj.1 ?_
  cases kind with
  | yearToMonth p => simp [standardInterval, unitsText]
  | dayToSecond p f => simp [standardInterval, unitsText]

theorem operandWith_interval (value : String) (kind : IntervalKind) :
    (operandWith operand).Reads endsOperand (standardInterval value kind).toList
      (.literal (some (standardInterval value kind))) := by
  intro rest _
  have hunits : endsOperand ((unitsText kind).toList ++ rest) = true := by
    cases kind <;> simp [unitsText, endsOperand]
  have htext : (standardInterval value kind).toList ++ rest =
      (Vocabulary.word Keyword.interval).toList ++ (" '".toList ++
        (Text.double '\'' value.toList ++ '\'' :: ((unitsText kind).toList ++ rest))) := by
    simp [standardInterval_eq, toList_stringLiteral, Vocabulary.word]
  rw [htext, operandWith_keyword .interval rfl, standardInterval_eq]
  simp only [keyword, skip_append, quoted_string value hunits, intervalUnits_append,
    Option.bind_eq_bind, Option.bind_some, String.ofList_toList]

/-- A literal that has a native text is read back as that text. -/
theorem operandWith_literal {l : Literal} {sql : String}
    (h : Dialect.Native.target.plainLiteral l = .ok sql) :
    (operandWith operand).Reads endsOperand sql.toList (.literal (some sql)) := by
  cases l with
  | null => cases h; exact operandWith_null
  | bool b => cases h; exact operandWith_bool b
  | exactNumeric d => cases h; exact operandWith_number d.isNumeral_text
  | double x =>
    rw [Target.plainLiteral] at h
    split at h
    next hx =>
      cases h
      exact operandWith_number (Double.isNumeral_text hx)
    next => cases h
  | date d => cases h; exact operandWith_date d
  | timestamp t => cases h; exact operandWith_timestamp t
  | string s => cases h; exact operandWith_string s
  | interval value kind => cases h; exact operandWith_interval value kind

/-! ## calls -/

variable {texts : List (List Char)} {values : List NormalForm}

theorem arguments_append (h : List.Forall₂ (operand.Reads endsOperand) texts values)
    (hne : texts ≠ []) (rest : List Char) :
    arguments operand (", ".toList.intercalate texts ++ (")".toList ++ rest)) =
      some (values, rest) := by
  have hlist : separated operand ", " (", ".toList.intercalate texts ++ (")".toList ++ rest)) =
      some (values, ")".toList ++ rest) :=
    separated_append h hne (by decide) (fun _ => rfl) rfl rfl
  simp only [arguments, hlist, skip_append, Option.bind_eq_bind, Option.bind_some]

theorem operandWith_negate (h : List.Forall₂ (operand.Reads endsOperand) texts values)
    (hne : texts ≠ []) :
    (operandWith operand).Reads endsOperand
      ("-(".toList ++ (", ".toList.intercalate texts ++ ")".toList)) (.scalar .neg values) := by
  intro rest _
  have hargs := arguments_append h hne rest
  have hstep : ∀ cs, operandWith operand ("-(".toList ++ cs) =
      (arguments operand cs).bind fun p => some (.scalar .neg p.1, p.2) := fun _ => rfl
  rw [List.append_assoc, List.append_assoc, hstep, hargs]
  rfl

theorem operandWith_scalar (f : ScalarFunction)
    (h : List.Forall₂ (operand.Reads endsOperand) texts values) (hne : texts ≠ []) :
    (operandWith operand).Reads endsOperand
      (f.name.toList ++ ("(".toList ++ (", ".toList.intercalate texts ++ ")".toList)))
      (.scalar f values) := by
  intro rest _
  have hword : isWord f.name.toList = true := by cases f <;> rfl
  have haggregate : (Vocabulary.ofWord? f.name : Option AggregateFunction) = none := by
    cases f <;> rfl
  have hscalar : (Vocabulary.ofWord? f.name : Option ScalarFunction) = some f :=
    Vocabulary.ofWord?_word f
  rw [List.append_assoc, List.append_assoc, List.append_assoc, operandWith_word hword rfl,
    String.ofList_toList, afterWord_paren]
  simp only [call, haggregate, hscalar, arguments_append h hne rest, Option.bind_eq_bind,
    Option.bind_some]

theorem operandWith_currentDate :
    (operandWith operand).Reads endsOperand "CURRENT_DATE".toList (.scalar .currentDate []) :=
  fun _ hrest => operandWith_keyword .currentDate hrest

theorem operandWith_currentTimestamp :
    (operandWith operand).Reads endsOperand "CURRENT_TIMESTAMP".toList
      (.scalar .currentTimestamp []) :=
  fun _ hrest => operandWith_keyword .currentTimestamp hrest

/-! ## aggregates -/

theorem operandWith_aggregate (f : AggregateFunction) (cs : List Char) :
    operandWith operand (f.name.toList ++ ("(".toList ++ cs)) = aggregate operand f cs := by
  have hword : isWord f.name.toList = true := by cases f <;> rfl
  have haggregate : (Vocabulary.ofWord? f.name : Option AggregateFunction) = some f :=
    Vocabulary.ofWord?_word f
  rw [operandWith_word hword rfl, String.ofList_toList, afterWord_paren]
  simp only [call, haggregate]

/-- A word that starts no operand does not start a list of them either. -/
theorem separated_none {α : Type} {item : Reader α} {cs : List Char} (h : item cs = none) :
    separated item ", " cs = none := by
  simp only [separated, upTo, h, Option.bind_eq_bind, Option.bind_none]

theorem operand_distinct (n : Nat) (cs : List Char) :
    Reading.operand n ("DISTINCT ".toList ++ cs) = none := by
  cases n with
  | zero => rfl
  | succ n => rfl

theorem operand_star (n : Nat) (cs : List Char) : Reading.operand n ("*".toList ++ cs) = none := by
  cases n with
  | zero => rfl
  | succ n => rfl

theorem aggregated_append (hd : ∀ cs, operand ("DISTINCT ".toList ++ cs) = none)
    (h : List.Forall₂ (operand.Reads endsOperand) texts values) (hne : texts ≠ [])
    (distinct : Bool) (hrest : endsOperand rest = true) (hend : skip ", ".toList rest = none) :
    aggregated operand ((if distinct then "DISTINCT " else "").toList ++
      (", ".toList.intercalate texts ++ rest)) = some ((distinct, values), rest) := by
  have hlist := separated_append h hne (by decide) (fun _ => rfl) hrest hend
  cases distinct with
  | true =>
    rw [if_pos rfl, aggregated, separated_none (hd _), skip_append]
    simp only [hlist, Option.bind_eq_bind, Option.bind_some]
  | false =>
    rw [if_neg Bool.false_ne_true, String.toList_empty, List.nil_append, aggregated]
    simp only [hlist]

theorem operandWith_countRows (hs : ∀ cs, operand ("*".toList ++ cs) = none) :
    (operandWith operand).Reads endsOperand "COUNT(*)".toList
      (.aggregate .count [] false [] none) := by
  intro rest _
  have htext : "COUNT(*)".toList ++ rest =
      AggregateFunction.count.name.toList ++ ("(".toList ++ ("*".toList ++ (")".toList ++ rest))) :=
    rfl
  have hdistinct : skip "DISTINCT ".toList ("*".toList ++ (")".toList ++ rest)) = none := rfl
  have hargs : aggregated operand ("*".toList ++ (")".toList ++ rest)) =
      some ((false, []), ")".toList ++ rest) := by
    rw [aggregated, separated_none (hs _), hdistinct, skip_append, Option.map_some]
  rw [htext, operandWith_aggregate, aggregate, hargs]
  rfl

theorem operandWith_plainAggregate {f : AggregateFunction} (hf : f ≠ .groupConcat)
    (hd : ∀ cs, operand ("DISTINCT ".toList ++ cs) = none)
    (h : List.Forall₂ (operand.Reads endsOperand) texts values) (hne : texts ≠ [])
    (distinct : Bool) :
    (operandWith operand).Reads endsOperand
      (f.name.toList ++ ("(".toList ++ ((if distinct then "DISTINCT " else "").toList ++
        (", ".toList.intercalate texts ++ ")".toList))))
      (.aggregate f values distinct [] none) := by
  intro rest _
  have hargs := aggregated_append hd h hne distinct
    (show endsOperand (")".toList ++ rest) = true from rfl) rfl
  simp only [List.append_assoc, operandWith_aggregate, aggregate, hargs, if_neg hf, skip_append,
    Option.bind_eq_bind, Option.bind_some]

theorem orderKey_append (h : (condition operand).Reads endsCondition text e) (d : Bool × Bool) :
    (orderKey operand).Reads (fun _ => true) (text ++ (directionWord d).toList) ⟨e, d.1, d.2⟩ := by
  intro rest _
  simp only [orderKey, List.append_assoc, h _ (endsCondition_direction d rest), choose_direction,
    Option.bind_eq_bind, Option.bind_some]

theorem order_keys {keys : List (OrderKey NormalForm)}
    (h : List.Forall₂ ((orderKey operand).Reads fun _ => true) texts keys) (hne : texts ≠ [])
    (hend : skip ", ".toList rest = none) :
    order operand (", ".toList.intercalate texts ++ rest) = some (keys, rest) := by
  have hlist := separated_append h hne (by decide) (fun _ => rfl) rfl hend
  simp only [order, hlist]

theorem order_none (h : operand.Reads endsOperand text e) (hrest : endsCondition rest = true)
    (hend : choose directionWord directions rest = none) :
    order operand (text ++ rest) = some ([], rest) := by
  have hcondition := condition_operand h rest hrest
  have hnone : orderKey operand (text ++ rest) = none := by
    simp only [orderKey, hcondition, hend, Option.bind_eq_bind, Option.bind_some, Option.bind_none]
  have hkeys : separated (orderKey operand) ", " (text ++ rest) = none := by
    exact separated_none hnone
  simp only [order, hkeys, hcondition, Option.bind_eq_bind, Option.bind_some]

theorem operandWith_groupConcat {arg keyText : List Char} {keys : List (OrderKey NormalForm)}
    (hd : ∀ cs, operand ("DISTINCT ".toList ++ cs) = none)
    (harg : operand.Reads endsOperand arg e)
    (horder : ∀ cs, order operand (keyText ++ (" SEPARATOR '".toList ++ cs)) =
      some (keys, " SEPARATOR '".toList ++ cs))
    (distinct : Bool) (separator : String) :
    (operandWith operand).Reads endsOperand
      ("GROUP_CONCAT".toList ++ ("(".toList ++ ((if distinct then "DISTINCT " else "").toList ++
        (arg ++ (" ORDER BY ".toList ++ (keyText ++ (" SEPARATOR ".toList ++
          ((Text.stringLiteral separator).toList ++ ")".toList))))))))
      (.aggregate .groupConcat [e] distinct keys (some separator)) := by
  intro rest _
  have hargs : ∀ cs, aggregated operand ((if distinct then "DISTINCT " else "").toList ++
      (arg ++ (" ORDER BY ".toList ++ cs))) =
        some ((distinct, [e]), " ORDER BY ".toList ++ cs) := by
    intro cs
    have h := aggregated_append hd (.cons harg .nil) (List.cons_ne_nil _ _) distinct
      (show endsOperand (" ORDER BY ".toList ++ cs) = true from rfl) rfl
    rwa [List.intercalate_singleton] at h
  have hquoted : quoted '\'' (Text.double '\'' separator.toList ++ '\'' :: (")".toList ++ rest)) =
      some (separator.toList, ")".toList ++ rest) := quoted_string separator rfl
  have hseparator : " SEPARATOR ".toList ++ ((Text.stringLiteral separator).toList ++
      (")".toList ++ rest)) = " SEPARATOR '".toList ++ (Text.double '\'' separator.toList ++
        '\'' :: (")".toList ++ rest)) := by
    simp [toList_stringLiteral]
  simp only [List.append_assoc]
  rw [hseparator]
  refine (operandWith_aggregate .groupConcat _).trans ?_
  simp only [aggregate, hargs, horder, hquoted, skip_append, if_true, Option.bind_eq_bind,
    Option.bind_some, String.ofList_toList]

end RemoteQuery.Reading
