import RemoteQuery.Proofs.NormalForm
import RemoteQuery.Proofs.Numerals
import RemoteQuery.Proofs.Reader

/-!
# RemoteQuery.Proofs.Reading

A reader of native text.  It is written for the texts that native expressions
have and makes no attempt at other spellings.

An operand is what stands beside an operator: a column, a literal, a call or
anything in parentheses.  A condition is an operand, possibly with a comparison
or another test after it.  `operand` reads operands that are nested less deep
than its bound.
-/

namespace RemoteQuery.Reading

open Reader

/-! ## words between operands -/

/-- What can follow the first operand of a condition. -/
inductive Test where
  | compare (op : CompareOp)
  | like
  | between
  | inList
  | isNull (negated : Bool)

namespace Test

def word : Test → String
  | compare op => " " ++ op.symbol ++ " "
  | like => " LIKE "
  | between => " BETWEEN "
  | inList => " IN ("
  | isNull negated => if negated then " IS NOT NULL" else " IS NULL"

def all : List Test :=
  (Vocabulary.members : List CompareOp).map compare ++
    [like, between, inList, isNull true, isNull false]

end Test

/-- What can stand between the parts of a parenthesis. -/
inductive Connective where
  | and | or | add | sub | mult | floatDiv

namespace Connective

def word : Connective → String
  | and => " AND "
  | or => " OR "
  | add => " + "
  | sub => " - "
  | mult => " * "
  | floatDiv => " / "

def all : List Connective :=
  [and, or, add, sub, mult, floatDiv]

/-- The expression whose parts are connected. -/
def combine : Connective → List NormalForm → NormalForm
  | and => .and
  | or => .or
  | add => .scalar .add
  | sub => .scalar .sub
  | mult => .scalar .mult
  | floatDiv => .scalar .floatDiv

end Connective

/-- What follows an ordering key: the direction and the place of absent values. -/
def directionWord : Bool × Bool → String
  | (ascending, nullsLast) =>
    (if ascending then " ASC" else " DESC") ++ (if nullsLast then " NULLS LAST" else " NULLS FIRST")

def directions : List (Bool × Bool) :=
  [(true, true), (true, false), (false, true), (false, false)]

/-- Whether a text may follow an operand: it starts with a blank, a comma or a parenthesis. -/
def endsOperand : List Char → Bool
  | [] => true
  | c :: _ => c == ' ' || c == ',' || c == ')'

/-- Whether a text may follow a condition: it does not go on with a test. -/
def endsCondition (cs : List Char) : Bool :=
  endsOperand cs && (choose Test.word Test.all cs).isNone && (skip " ESCAPE ".toList cs).isNone

/-! ## conditions -/

/-- A condition from its first operand and what follows it. -/
def test (operand : Reader NormalForm) (subject : NormalForm) : Test → Reader NormalForm
  | .compare op, cs => do
    let (right, cs) ← operand cs
    some (.compare op subject right, cs)
  | .like, cs => do
    let (pattern, cs) ← operand cs
    match skip " ESCAPE ".toList cs with
    | none => some (.like subject pattern, cs)
    | some cs => do
      let (escape, cs) ← operand cs
      some (.likeEscape subject pattern escape, cs)
  | .between, cs => do
    let (low, cs) ← operand cs
    let cs ← skip " AND ".toList cs
    let (high, cs) ← operand cs
    some (.between subject low high, cs)
  | .inList, cs => do
    let (values, cs) ← separated operand ", " cs
    let cs ← skip ")".toList cs
    some (.inList subject values, cs)
  | .isNull negated, cs => some (.isNull subject negated, cs)

/-- An operand, and a test if one follows. -/
def condition (operand : Reader NormalForm) : Reader NormalForm := fun cs => do
  let (subject, cs) ← operand cs
  match choose Test.word Test.all cs with
  | none => some (subject, cs)
  | some (t, cs) => test operand subject t cs

/-- What stands in parentheses, up to the closing one. -/
def group (operand : Reader NormalForm) : Reader NormalForm := fun cs => do
  let (first, cs) ← condition operand cs
  match choose Connective.word Connective.all cs with
  | none => do
    let cs ← skip ")".toList cs
    some (first, cs)
  | some (c, cs) => do
    let (others, cs) ← separated (condition operand) c.word cs
    let cs ← skip ")".toList cs
    some (c.combine (first :: others), cs)

/-! ## calls -/

/-- Arguments, up to the closing parenthesis. -/
def arguments (operand : Reader NormalForm) : Reader (List NormalForm) := fun cs => do
  let (args, cs) ← separated operand ", " cs
  let cs ← skip ")".toList cs
  some (args, cs)

/-- The arguments of an aggregate and whether they are taken distinct; a star stands for none. -/
def aggregated (operand : Reader NormalForm) : Reader (Bool × List NormalForm) := fun cs =>
  match separated operand ", " cs with
  | some (args, cs) => some ((false, args), cs)
  | none =>
    match skip "DISTINCT ".toList cs with
    | some cs => do
      let (args, cs) ← separated operand ", " cs
      some ((true, args), cs)
    | none => (skip "*".toList cs).map fun cs => ((false, []), cs)

/-- An ordering key. -/
def orderKey (operand : Reader NormalForm) : Reader (OrderKey NormalForm) := fun cs => do
  let (e, cs) ← condition operand cs
  let ((ascending, nullsLast), cs) ← choose directionWord directions cs
  some (⟨e, ascending, nullsLast⟩, cs)

/-- The order of a concatenation; an expression without a direction stands for none. -/
def order (operand : Reader NormalForm) : Reader (List (OrderKey NormalForm)) := fun cs =>
  match separated (orderKey operand) ", " cs with
  | some (keys, cs) => some (keys, cs)
  | none => do
    let (_, cs) ← condition operand cs
    some ([], cs)

/-- An aggregate call after its opening parenthesis. -/
def aggregate (operand : Reader NormalForm) (f : AggregateFunction) : Reader NormalForm :=
  fun cs => do
    let ((distinct, args), cs) ← aggregated operand cs
    if f = .groupConcat then do
      let cs ← skip " ORDER BY ".toList cs
      let (keys, cs) ← order operand cs
      let cs ← skip " SEPARATOR '".toList cs
      let (separator, cs) ← quoted '\'' cs
      let cs ← skip ")".toList cs
      some (.aggregate f args distinct keys (some (String.ofList separator)), cs)
    else do
      let cs ← skip ")".toList cs
      some (.aggregate f args distinct [] none, cs)

/-- A call after its name and opening parenthesis. -/
def call (operand : Reader NormalForm) (name : String) : Reader NormalForm := fun cs =>
  match Vocabulary.ofWord? name with
  | some f => aggregate operand f cs
  | none => do
    let f ← Vocabulary.ofWord? name
    let (args, cs) ← arguments operand cs
    some (.scalar f args, cs)

/-! ## names and literals -/

/-- The characters of bare names, function names and keywords. -/
def isWordChar (c : Char) : Bool :=
  c.isAlphanum || c == '_'

/-- The characters of numbers. -/
def isNumberChar (c : Char) : Bool :=
  c.isDigit || c == '-' || c == '.' || c == 'e'

/-- A name, bare or in quotes. -/
def identifier : Reader String
  | [] => none
  | c :: cs =>
    if c = '"' then (quoted '"' cs).map fun (s, rest) => (String.ofList s, rest)
    else
      let (w, rest) := (c :: cs).span isWordChar
      some (String.ofList w, rest)

/-- Words that stand alone or in front of a quoted text. -/
inductive Keyword where
  | not | null | true | false | currentDate | currentTimestamp | date | timestamp | interval

instance : Vocabulary Keyword where
  members :=
    [.not, .null, .true, .false, .currentDate, .currentTimestamp, .date, .timestamp, .interval]
  word
    | .not => "NOT"
    | .null => "NULL"
    | .true => "TRUE"
    | .false => "FALSE"
    | .currentDate => "CURRENT_DATE"
    | .currentTimestamp => "CURRENT_TIMESTAMP"
    | .date => "DATE"
    | .timestamp => "TIMESTAMP"
    | .interval => "INTERVAL"
  mem_members a := by cases a <;> simp
  nodup_words := by decide +kernel

/-- The precisions of an interval, as they are written after its value. -/
def intervalUnits : Reader String := fun cs =>
  match skip " YEAR(".toList cs with
  | some cs => do
    let (p, cs) := cs.span Char.isDigit
    let cs ← skip ") TO MONTH".toList cs
    some (" YEAR(" ++ String.ofList p ++ ") TO MONTH", cs)
  | none => do
    let cs ← skip " DAY(".toList cs
    let (p, cs) := cs.span Char.isDigit
    let cs ← skip ") TO SECOND(".toList cs
    let (f, cs) := cs.span Char.isDigit
    let cs ← skip ")".toList cs
    some (" DAY(" ++ String.ofList p ++ ") TO SECOND(" ++ String.ofList f ++ ")", cs)

/-- A day or a point in time in quotes; the opening is part of its text. -/
def moment (opening : String) : Reader NormalForm := fun cs => do
  let cs ← skip " '".toList cs
  let (s, cs) ← quoted '\'' cs
  some (.literal (some (opening ++ String.ofList s ++ "'")), cs)

/-- What a keyword starts. -/
def keyword (operand : Reader NormalForm) : Keyword → Reader NormalForm
  | .not, cs => do
    let cs ← skip " (".toList cs
    let (e, cs) ← group operand cs
    some (.not e, cs)
  | .null, cs => some (.literal (some "NULL"), cs)
  | .true, cs => some (.literal (some "TRUE"), cs)
  | .false, cs => some (.literal (some "FALSE"), cs)
  | .currentDate, cs => some (.scalar .currentDate [], cs)
  | .currentTimestamp, cs => some (.scalar .currentTimestamp [], cs)
  | .date, cs => moment "DATE '" cs
  | .timestamp, cs => moment "TIMESTAMP '" cs
  | .interval, cs => do
    let cs ← skip " '".toList cs
    let (s, cs) ← quoted '\'' cs
    let (units, cs) ← intervalUnits cs
    some (.literal (some ("INTERVAL " ++ Text.stringLiteral (String.ofList s) ++ units)), cs)

/-- What a word starts: a column, a call or what a keyword stands for. -/
def afterWord (operand : Reader NormalForm) (word : String) : Reader NormalForm
  | '.' :: cs => (identifier cs).map fun (name, rest) => (.column word name, rest)
  | '(' :: cs => call operand word cs
  | cs => (Vocabulary.ofWord? word).bind fun k => keyword operand k cs

/-! ## operands -/

/-- An operand, where `operand` reads those nested in it. -/
def operandWith (operand : Reader NormalForm) : Reader NormalForm
  | [] => none
  | c :: cs =>
    if c = '(' then group operand cs
    else if c = '\'' then
      (quoted '\'' cs).map fun (s, rest) =>
        (.literal (some (Text.stringLiteral (String.ofList s))), rest)
    else if c = '"' then do
      let (qualifier, cs) ← quoted '"' cs
      let cs ← skip ".".toList cs
      let (name, cs) ← identifier cs
      some (.column (String.ofList qualifier) name, cs)
    else if c = '-' ∧ cs.head? = some '(' then do
      let (args, cs) ← arguments operand cs.tail
      some (.scalar .neg args, cs)
    else if c = '-' ∨ c.isDigit = true then
      let (number, rest) := (c :: cs).span isNumberChar
      some (.literal (some (String.ofList number)), rest)
    else
      let (word, rest) := (c :: cs).span isWordChar
      afterWord operand (String.ofList word) rest

/-- An operand nested less deep than the bound. -/
def operand : Nat → Reader NormalForm
  | 0, _ => none
  | n + 1, cs => operandWith (operand n) cs

end RemoteQuery.Reading
