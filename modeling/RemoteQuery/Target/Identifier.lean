import RemoteQuery.Vocabulary
import RemoteQuery.Text.Quoted

/-!
# RemoteQuery.Target.Identifier

Identifiers as a target reads them: how it quotes them, how it folds the case
of those written bare, and which words it reserves.
-/

namespace RemoteQuery

/-- How a target treats the case of an identifier. -/
inductive CaseHandling where
  | foldUpper
  | foldLower
  | caseSensitive
deriving DecidableEq

namespace CaseHandling

instance : Vocabulary CaseHandling where
  members := [foldUpper, foldLower, caseSensitive]
  word
    | foldUpper => "FoldUpper"
    | foldLower => "FoldLower"
    | caseSensitive => "CaseSensitive"
  mem_members a := by cases a <;> decide
  nodup_words := by decide +kernel

/-- The identifier as the target stores it. -/
def fold : CaseHandling → String → String
  | foldUpper, s => s.toUpper
  | foldLower, s => s.toLower
  | caseSensitive, s => s

/-- Whether a letter of this case survives the folding. -/
def keepsLetter : CaseHandling → Char → Bool
  | foldUpper, c => c.isUpper
  | foldLower, c => c.isLower
  | caseSensitive, c => c.isAlpha

/-- Whether an identifier can be written bare: a letter, then letters, digits and underscores,
all letters of a case that survives the folding. -/
def isSimple (h : CaseHandling) (s : String) : Bool :=
  match s.toList with
  | [] => false
  | c :: cs => h.keepsLetter c && cs.all fun d => h.keepsLetter d || d.isDigit || d == '_'

theorem isAlphanum_of_keepsLetter {h : CaseHandling} {c : Char} (hc : h.keepsLetter c = true) :
    c.isAlphanum = true := by
  show (c.isUpper || c.isLower || c.isDigit) = true
  rw [Bool.or_eq_true, Bool.or_eq_true]
  cases h with
  | foldUpper => exact .inl (.inl hc)
  | foldLower => exact .inl (.inr hc)
  | caseSensitive => exact .inl (Bool.or_eq_true_iff.1 hc)

/-- An identifier that can be written bare has no other characters than letters, digits and
underscores. -/
theorem alphanum_of_isSimple {h : CaseHandling} {s : String} (hs : h.isSimple s = true) :
    ∀ c ∈ s.toList, c.isAlphanum = true ∨ c = '_' := by
  rw [isSimple] at hs
  split at hs
  next => contradiction
  next c cs heq =>
    rw [Bool.and_eq_true, List.all_eq_true] at hs
    rw [heq, List.forall_mem_cons]
    refine ⟨.inl (isAlphanum_of_keepsLetter hs.1), fun d hd => ?_⟩
    have hd := hs.2 d hd
    rw [Bool.or_eq_true, Bool.or_eq_true, beq_iff_eq] at hd
    obtain (hd | hd) | hd := hd
    · exact .inl (isAlphanum_of_keepsLetter hd)
    · exact .inl (Bool.or_eq_true_iff.2 (.inr hd))
    · exact .inr hd

end CaseHandling

/-- The characters an identifier is quoted with. -/
inductive QuoteStyle where
  /-- Double quotes; embedded ones are doubled. -/
  | double
  /-- Backticks; embedded ones are doubled. -/
  | backtick
  /-- Brackets; nothing is escaped. -/
  | bracket
deriving DecidableEq

namespace QuoteStyle

instance : Vocabulary QuoteStyle where
  members := [double, backtick, bracket]
  word
    | double => "Double"
    | backtick => "Backtick"
    | bracket => "Bracket"
  mem_members a := by cases a <;> decide
  nodup_words := by decide +kernel

/-- The character that opens a quoted identifier. -/
def opening : QuoteStyle → Char
  | double => '"'
  | backtick => '\x60'
  | bracket => '['

/-- The character that closes a quoted identifier. -/
def closing : QuoteStyle → Char
  | double => '"'
  | backtick => '\x60'
  | bracket => ']'

/-- What stands between the quotes for an identifier. -/
def escape : QuoteStyle → List Char → List Char
  | bracket, cs => cs
  | style, cs => Text.double style.closing cs

/-- The identifier written between quotes as `cs`. -/
def unescape : QuoteStyle → List Char → List Char
  | bracket, cs => cs
  | style, cs => Text.undouble style.closing cs

/-- The quoted identifier. -/
def quote (style : QuoteStyle) (s : String) : String :=
  Text.enclose style.opening style.closing (style.escape s.toList)

/-- The identifier of a quoted text; `none` if it does not stand between the quotes. -/
def unquote? (style : QuoteStyle) (s : String) : Option String :=
  (Text.enclosed? style.opening style.closing s).map fun cs => String.ofList (style.unescape cs)

end QuoteStyle

/-- Words that are never written bare, in small letters. -/
def reservedWords : List String :=
  ["order", "group", "user", "table", "select", "from", "where", "join", "left", "right",
   "inner", "outer", "on", "and", "or", "not", "null", "true", "false", "limit", "offset", "as",
   "in", "is", "like", "between", "having", "union", "all", "distinct", "case", "when", "then",
   "else", "end", "create", "alter", "drop", "insert", "update", "delete", "index", "key",
   "primary", "foreign", "references", "default", "constraint", "check", "date", "timestamp",
   "time", "level", "rownum", "size", "comment", "number", "value", "values"]

/-- Whether a word is reserved, in any case. -/
def isReservedWord (s : String) : Bool :=
  reservedWords.contains s.toLower

end RemoteQuery
