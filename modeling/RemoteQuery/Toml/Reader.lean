import RemoteQuery.Toml.Scalar
import RemoteQuery.Toml.Table
import RemoteQuery.Toml.Text

/-!
# RemoteQuery.Toml.Reader

TOML documents as JSON objects.  Every step of the reader consumes a character,
so the length of the text bounds the number of steps.
-/

namespace RemoteQuery.Toml

/-- Values nest less deep than this, and keys have fewer parts. -/
def nestingLimit : Nat := 80

/-! ## keys -/

/-- The characters of a bare key. -/
def isKeyChar (c : Char) : Bool :=
  c.isAlphanum || c = '_' || c = '-'

/-- A part of a key, and the text after it. -/
def keyPart? : List Char → Option (String × List Char)
  | '"' :: rest => (basicBody rest).map fun (s, rest) => (String.ofList s, rest)
  | '\'' :: rest => (literalBody rest).map fun (s, rest) => (String.ofList s, rest)
  | cs =>
    let key := cs.takeWhile isKeyChar
    if key.isEmpty then none else some (String.ofList key, cs.dropWhile isKeyChar)

/-- The parts of a dotted key before its last, the last part, and the text after it, for a key of
at most `parts` parts; blanks may stand around each part. -/
def keyWithin? : (parts : Nat) → List Char → Option (List String × String × List Char)
  | 0, _ => none
  | parts + 1, cs => do
    let (part, rest) ← keyPart? (skipSpace cs)
    match skipSpace rest with
    | '.' :: rest =>
      let (path, last, rest) ← keyWithin? parts rest
      return (part :: path, last, rest)
    | rest => return ([], part, rest)

/-- A dotted key, split before its last part, and the text after it. -/
def key? (cs : List Char) : Option (List String × String × List Char) :=
  keyWithin? (nestingLimit - 1) cs

/-! ## values -/

/-- A bare word, and the text after it.  A time may follow a date after a single blank. -/
def word? (cs : List Char) : Option (Json × List Char) :=
  let word := cs.takeWhile isWordChar
  let rest := cs.dropWhile isWordChar
  let joined := match rest with
    | ' ' :: c :: _ => if isDate word && c.isDigit then some (rest.drop 1) else none
    | _ => none
  match joined with
  | some time =>
    (scalar? (word ++ ' ' :: time.takeWhile isWordChar)).map fun j => (j, time.dropWhile isWordChar)
  | none => (scalar? word).map fun j => (j, rest)

mutual

/-- A value that nests at most `levels` levels, and the text after it. -/
def value (fuel levels : Nat) (cs : List Char) : Option (Json × List Char) :=
  match fuel with
  | 0 => none
  | fuel + 1 =>
    let asString := fun r : Option (List Char × List Char) =>
      r.map fun (s, rest) => (Json.string (String.ofList s), rest)
    match cs, levels with
    | '"' :: '"' :: '"' :: rest, _ => asString (linesBody .keep (skipFirstLineEnd rest))
    | '"' :: rest, _ => asString (basicBody rest)
    | '\'' :: '\'' :: '\'' :: rest, _ => asString (literalLinesBody (skipFirstLineEnd rest))
    | '\'' :: rest, _ => asString (literalBody rest)
    | '[' :: _, 0 | '\x7b' :: _, 0 => none
    | '[' :: rest, levels + 1 => (items fuel levels rest).map fun (js, rest) => (.array js, rest)
    | '\x7b' :: rest, levels + 1 =>
      match skipSpace rest with
      | '\x7d' :: rest => some (.object [], rest)
      | _ => (inline fuel levels Items.opened rest).map fun (t, rest) =>
        (.object (entriesToJson t.entries), rest)
    | _, _ => word? cs

/-- The items of an array after its opening bracket or a comma; a comma may stand before the
closing bracket. -/
def items (fuel levels : Nat) (cs : List Char) : Option (List Json × List Char) :=
  match fuel with
  | 0 => none
  | fuel + 1 => do
    match ← skipLines false cs with
    | ']' :: rest => return ([], rest)
    | cs =>
      let (j, rest) ← value fuel levels cs
      match ← skipLines false rest with
      | ']' :: rest => return ([j], rest)
      | ',' :: rest =>
        let (js, rest) ← items fuel levels rest
        return (j :: js, rest)
      | _ => none

/-- The entries of an inline table, added to those before, and the text after its closing
brace. -/
def inline (fuel levels : Nat) (t : Items) (cs : List Char) : Option (Items × List Char) :=
  match fuel with
  | 0 => none
  | fuel + 1 => do
    let (path, key, rest) ← key? cs
    match rest with
    | '=' :: rest =>
      let (j, rest) ← value fuel levels (skipSpace rest)
      let t ← t.insert path key j
      match skipSpace rest with
      | '\x7d' :: rest => return (t, rest)
      | ',' :: rest => inline fuel levels t rest
      | _ => none
    | _ => none

end

/-! ## documents -/

/-- The document read so far and the path of the table that the last header opened. -/
structure State where
  root : Items
  current : List String

/-- Opens the table of a header by `opening` in the table around it. -/
def State.enter (s : State) (path : List String) (key : String)
    (opening : String → Items → Option Items) : Option State :=
  (s.root.alter false (opening key) path).map fun root => ⟨root, path ++ [key]⟩

/-- Adds a value to the table of the last header. -/
def State.insert (s : State) (path : List String) (key : String) (j : Json) : Option State :=
  (s.root.alter false (Items.insert path key j) s.current).map fun root => { s with root }

/-- A header or an entry, and the text after its line. -/
def line? (s : State) (cs : List Char) : Option (State × List Char) :=
  match cs with
  | '[' :: '[' :: rest => do
    let (path, key, rest) ← key? rest
    match rest with
    | ']' :: ']' :: rest => return (← s.enter path key Items.openNext, ← lineEnd? false rest)
    | _ => none
  | '[' :: rest => do
    let (path, key, rest) ← key? rest
    match rest with
    | ']' :: rest => return (← s.enter path key Items.openTable, ← lineEnd? false rest)
    | _ => none
  | _ => do
    let (path, key, rest) ← key? cs
    match rest with
    | '=' :: rest =>
      let (j, rest) ← value (2 * rest.length + 1) (nestingLimit - 1) (skipSpace rest)
      return (← s.insert path key j, ← lineEnd? false rest)
    | _ => none

/-- The lines of a document. -/
def lines? : (fuel : Nat) → State → List Char → Option State
  | 0, _, _ => none
  | fuel + 1, s, cs => do
    match ← skipLines false cs with
    | [] => return s
    | cs =>
      let (s, rest) ← line? s cs
      lines? fuel s rest

/-- The object a document denotes.  A byte order mark may stand at its front. -/
def parse? (doc : String) : Option Json :=
  let cs := match doc.toList with
    | '\uFEFF' :: rest => rest
    | cs => cs
  (lines? (cs.length + 1) ⟨Items.opened, []⟩ cs).map fun s =>
    .object (entriesToJson s.root.entries)

end RemoteQuery.Toml
