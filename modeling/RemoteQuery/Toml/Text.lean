import RemoteQuery.Json.Reader

/-!
# RemoteQuery.Toml.Text

The small parts of TOML text: blanks, comments, line ends and the four kinds of
quoted text.
-/

namespace RemoteQuery.Toml

/-- Blanks inside of a line. -/
def isSpace (c : Char) : Bool :=
  c = ' ' || c = '\t'

/-- The text after its leading blanks. -/
def skipSpace (cs : List Char) : List Char :=
  cs.dropWhile isSpace

/-- Characters that may stand in quoted text and in comments: everything but control characters. -/
def isText (c : Char) : Bool :=
  c = '\t' || (0x20 ≤ c.toNat && c.toNat != 0x7F)

/-- The text after blanks, comments and line ends. -/
def skipLines (inComment : Bool) : List Char → Option (List Char)
  | [] => some []
  | '\r' :: '\n' :: rest => skipLines false rest
  | c :: rest =>
    if c = '\n' then skipLines false rest
    else if inComment then (if isText c then skipLines true rest else none)
    else if isSpace c then skipLines false rest
    else if c = '#' then skipLines true rest
    else some (c :: rest)

/-- The text after the end of the line, before which only blanks and a comment may stand. -/
def lineEnd? (inComment : Bool) : List Char → Option (List Char)
  | [] => some []
  | '\r' :: '\n' :: rest => some rest
  | c :: rest =>
    if c = '\n' then some rest
    else if inComment then (if isText c then lineEnd? true rest else none)
    else if isSpace c then lineEnd? false rest
    else if c = '#' then lineEnd? true rest
    else none

/-! ## quoted text -/

/-- The character that follows a backslash as a single letter. -/
def shortEscape? : Char → Option Char
  | '"' => some '"'
  | '\\' => some '\\'
  | 'b' => some '\x08'
  | 'f' => some '\x0c'
  | 'n' => some '\n'
  | 'r' => some '\r'
  | 't' => some '\t'
  | _ => none

/-- A character before the rest of a quoted text. -/
def cons (c : Char) (r : Option (List Char × List Char)) : Option (List Char × List Char) :=
  r.map fun (cs, rest) => (c :: cs, rest)

/-- The characters up to the closing double quote, and the text after it. -/
def basicBody : List Char → Option (List Char × List Char)
  | [] => none
  | '"' :: rest => some ([], rest)
  | '\\' :: 'u' :: a :: b :: c :: d :: rest =>
    match (Json.hexQuad? a b c d).bind Json.char? with
    | some x => cons x (basicBody rest)
    | none => none
  | '\\' :: 'U' :: a :: b :: c :: d :: e :: f :: g :: h :: rest =>
    match Json.hexQuad? a b c d, Json.hexQuad? e f g h with
    | some high, some low =>
      match Json.char? (high * 0x10000 + low) with
      | some x => cons x (basicBody rest)
      | none => none
    | _, _ => none
  | '\\' :: e :: rest =>
    match shortEscape? e with
    | some x => cons x (basicBody rest)
    | none => none
  | c :: rest => if isText c && c != '\\' then cons c (basicBody rest) else none

/-- The characters up to the closing single quote, and the text after it. -/
def literalBody : List Char → Option (List Char × List Char)
  | [] => none
  | '\'' :: rest => some ([], rest)
  | c :: rest => if isText c then cons c (literalBody rest) else none

/-- How the reader of a text of several lines takes blanks and line ends. -/
inductive LineMode where
  /-- They belong to the text. -/
  | keep
  /-- A line end has to follow the backslash before. -/
  | awaitLineEnd
  /-- They are skipped up to the next other character. -/
  | skip
deriving DecidableEq

/-- A line end in a mode. -/
def LineMode.lineEnd (m : LineMode) (keep skip : Option (List Char × List Char)) :
    Option (List Char × List Char) :=
  match m with
  | .keep => cons '\n' keep
  | _ => skip

/-- The characters of a text of several lines up to three closing double quotes, and the text
after them; one or two more quotes belong to the text.  A backslash at the end of a line joins it
with the next text. -/
def linesBody (m : LineMode) : List Char → Option (List Char × List Char)
  | [] => none
  | '\r' :: '\n' :: rest => m.lineEnd (linesBody .keep rest) (linesBody .skip rest)
  | '\n' :: rest => m.lineEnd (linesBody .keep rest) (linesBody .skip rest)
  | ' ' :: rest =>
    if m = .keep then cons ' ' (linesBody .keep rest) else linesBody m rest
  | '\t' :: rest =>
    if m = .keep then cons '\t' (linesBody .keep rest) else linesBody m rest
  | '"' :: '"' :: '"' :: '"' :: '"' :: rest =>
    if m = .awaitLineEnd then none else some (['"', '"'], rest)
  | '"' :: '"' :: '"' :: '"' :: rest => if m = .awaitLineEnd then none else some (['"'], rest)
  | '"' :: '"' :: '"' :: rest => if m = .awaitLineEnd then none else some ([], rest)
  | '\\' :: 'u' :: a :: b :: c :: d :: rest =>
    match (Json.hexQuad? a b c d).bind Json.char? with
    | some x => if m = .awaitLineEnd then none else cons x (linesBody .keep rest)
    | none => none
  | '\\' :: 'U' :: a :: b :: c :: d :: e :: f :: g :: h :: rest =>
    match Json.hexQuad? a b c d, Json.hexQuad? e f g h with
    | some high, some low =>
      match Json.char? (high * 0x10000 + low) with
      | some x => if m = .awaitLineEnd then none else cons x (linesBody .keep rest)
      | none => none
    | _, _ => none
  | '\\' :: '\r' :: '\n' :: rest => if m = .awaitLineEnd then none else linesBody .skip rest
  | '\\' :: e :: rest =>
    if m = .awaitLineEnd then none
    else if e = '\n' then linesBody .skip rest
    else if isSpace e then linesBody .awaitLineEnd rest
    else
      match shortEscape? e with
      | some x => cons x (linesBody .keep rest)
      | none => none
  | c :: rest =>
    if isText c && c != '\\' && m != .awaitLineEnd then cons c (linesBody .keep rest) else none

/-- The characters of a literal text of several lines up to three closing single quotes, and the
text after them; one or two more quotes belong to the text. -/
def literalLinesBody : List Char → Option (List Char × List Char)
  | [] => none
  | '\'' :: '\'' :: '\'' :: '\'' :: '\'' :: rest => some (['\'', '\''], rest)
  | '\'' :: '\'' :: '\'' :: '\'' :: rest => some (['\''], rest)
  | '\'' :: '\'' :: '\'' :: rest => some ([], rest)
  | '\r' :: '\n' :: rest => cons '\n' (literalLinesBody rest)
  | c :: rest => if isText c || c = '\n' then cons c (literalLinesBody rest) else none

/-- The text after a line end that follows an opening quote at once. -/
def skipFirstLineEnd : List Char → List Char
  | '\r' :: '\n' :: rest => rest
  | '\n' :: rest => rest
  | cs => cs

end RemoteQuery.Toml
