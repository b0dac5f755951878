import RemoteQuery.Number.Double
import RemoteQuery.Vocabulary

/-!
# RemoteQuery.Json.Value

JSON values, and access to the parts of one.  A number is an integer when it is
written without a fraction and an exponent and has 64 bits, and a double
otherwise.
-/

namespace RemoteQuery

/-- A JSON value. -/
inductive Json where
  | null
  | bool (value : Bool)
  | int (value : Int)
  | real (value : Double)
  | string (value : String)
  | array (items : List Json)
  | object (fields : List (String × Json))

namespace Json

/-! ## scalars -/

/-- The truth value. -/
def bool? : Json → Option Bool
  | bool b => some b
  | _ => none

/-- The text. -/
def string? : Json → Option String
  | string s => some s
  | _ => none

/-- The integer between two bounds. -/
def intBetween? (low high : Int) : Json → Option Int
  | int n => if low ≤ n ∧ n ≤ high then some n else none
  | _ => none

/-- The integer as a word of 32 bits. -/
def uint32? (j : Json) : Option UInt32 :=
  (j.intBetween? 0 (UInt32.size - 1)).map fun n => UInt32.ofNat n.toNat

/-- The integer as a word of 64 bits. -/
def uint64? (j : Json) : Option UInt64 :=
  (j.intBetween? 0 (UInt64.size - 1)).map fun n => UInt64.ofNat n.toNat

/-- The integer as a signed word of 32 bits. -/
def int32? (j : Json) : Option Int32 :=
  (j.intBetween? Int32.minValue.toInt Int32.maxValue.toInt).map Int32.ofInt

/-- The integer as a signed word of 64 bits. -/
def int64? (j : Json) : Option Int64 :=
  (j.intBetween? Int64.minValue.toInt Int64.maxValue.toInt).map Int64.ofInt

/-- The name of a case without content: the name alone, or an object in which it is null. -/
def unit? : Json → Option String
  | string s => some s
  | object [(s, null)] => some s
  | _ => none

/-- The member of a vocabulary. -/
def word? {α : Type} [Vocabulary α] (j : Json) : Option α :=
  j.unit?.bind Vocabulary.ofWord?

/-- The member of a vocabulary as a value. -/
def ofWord {α : Type} [Vocabulary α] (a : α) : Json :=
  string (Vocabulary.word a)

/-- An optional value; an absent one is null. -/
def ofOption {α : Type} (encode : α → Json) : Option α → Json
  | none => null
  | some a => encode a

/-! ## lists -/

/-- The items of an array. -/
def array? : Json → Option (List Json)
  | array items => some items
  | _ => none

/-- The items of an array, each decoded. -/
def list? {α : Type} (decode : Json → Option α) (j : Json) : Option (List α) :=
  j.array?.bind (List.mapM decode)

/-- A list as an array. -/
def ofList {α : Type} (encode : α → Json) (l : List α) : Json :=
  array (l.map encode)

/-! ## records -/

/-- The fields of an object. -/
def object? : Json → Option (List (String × Json))
  | object fields => some fields
  | _ => none

/-- The value of a field; of several of one name the last. -/
def find? (name : String) (fields : List (String × Json)) : Option Json :=
  fields.reverse.lookup name

/-- The fields of a record with the given field names: an object, or an array of at least `least`
values in field order. -/
def record? (names : List String) (least : Nat) : Json → Option (List (String × Json))
  | object fields => some fields
  | array items =>
    if least ≤ items.length ∧ items.length ≤ names.length then some (names.zip items) else none
  | _ => none

/-- A field that has to be there. -/
def required? {α : Type} (decode : Json → Option α) (name : String)
    (fields : List (String × Json)) : Option α :=
  (find? name fields).bind decode

/-- A field that may be missing or null. -/
def optional? {α : Type} (decode : Json → Option α) (name : String)
    (fields : List (String × Json)) : Option (Option α) :=
  match find? name fields with
  | none | some null => some none
  | some j => (decode j).map some

/-- A field that may be missing, for a default, but not null. -/
def defaulted? {α : Type} (decode : Json → Option α) (default : α) (name : String)
    (fields : List (String × Json)) : Option α :=
  match find? name fields with
  | none => some default
  | some j => decode j

/-- A case of a sum: an object with the name of the case as its only field. -/
def case? : Json → Option (String × Json)
  | object [field] => some field
  | _ => none

/-- A case of a sum named beside its content: an object whose field `tag` is the name of the case,
or an array that begins with it.  The content is what `record?` takes. -/
def tagged? (tag : String) : Json → Option (String × Json)
  | object fields => (required? string? tag fields).map (·, object fields)
  | array (string name :: items) => some (name, array items)
  | _ => none

/-- A value of a case of a sum. -/
def ofCase (name : String) (j : Json) : Json :=
  object [(name, j)]

/-! ## nesting -/

mutual

/-- The number of levels a value nests. -/
def height : Json → Nat
  | array items => itemsHeight items + 1
  | object fields => fieldsHeight fields + 1
  | _ => 1
termination_by structural j => j

/-- The number of levels of the highest item. -/
def itemsHeight : List Json → Nat
  | [] => 0
  | j :: js => max j.height (itemsHeight js)
termination_by structural js => js

/-- The number of levels of the highest field. -/
def fieldsHeight : List (String × Json) → Nat
  | [] => 0
  | (_, j) :: rest => max j.height (fieldsHeight rest)
termination_by structural fields => fields

end

mutual

/-- The number of arrays and objects that stand around the innermost value. -/
def depth : Json → Nat
  | array items => itemsDepth items + 1
  | object fields => fieldsDepth fields + 1
  | _ => 0
termination_by structural j => j

/-- The depth of the deepest item. -/
def itemsDepth : List Json → Nat
  | [] => 0
  | j :: js => max j.depth (itemsDepth js)
termination_by structural js => js

/-- The depth of the deepest field. -/
def fieldsDepth : List (String × Json) → Nat
  | [] => 0
  | (_, j) :: rest => max j.depth (fieldsDepth rest)
termination_by structural fields => fields

end

end Json

end RemoteQuery
