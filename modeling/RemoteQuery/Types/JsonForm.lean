import RemoteQuery.Json.Value
import RemoteQuery.Types.Canonical
import RemoteQuery.Types.Remote

/-!
# RemoteQuery.Types.JsonForm

The JSON form of types: a canonical type is an object whose field `type` names
it, with the numbers it has beside it.  It may also be read from an array of
its name and its numbers.
-/

namespace RemoteQuery

namespace CanonicalType

/-- A word as a JSON number. -/
def number (n : UInt32) : Json := .int n.toNat

/-- The JSON form of a type. -/
def toJson : CanonicalType → Json
  | boolean => .object [("type", .string "BOOLEAN")]
  | decimal p s =>
    .object [("type", .string "DECIMAL"), ("precision", number p), ("scale", number s)]
  | double => .object [("type", .string "DOUBLE")]
  | varchar n c => .object [("type", .string "VARCHAR"), ("size", number n), ("charset", .ofWord c)]
  | char n c => .object [("type", .string "CHAR"), ("size", number n), ("charset", .ofWord c)]
  | date => .object [("type", .string "DATE")]
  | timestamp z => .object [("type", .string "TIMESTAMP"), ("local_time_zone", .bool z)]
  | intervalYearToMonth p =>
    .object [("type", .string "INTERVAL_YEAR_TO_MONTH"), ("precision", number p)]
  | intervalDayToSecond p f =>
    .object [("type", .string "INTERVAL_DAY_TO_SECOND"), ("precision", number p),
      ("fraction", number f)]
  | geometry srid => .object [("type", .string "GEOMETRY"), ("srid", number srid)]
  | unsupported => .object [("type", .string "UNSUPPORTED")]

/-- The character set of a type: its name, alone or as the only field of an object in which it has
no content. -/
def charset? : Json → Option Charset
  | .object [(name, .object [])] => Vocabulary.ofWord? name
  | j => j.word?

/-- The type of a JSON form; numbers are taken as they are. -/
def ofJson? (j : Json) : Option CanonicalType := do
  let (name, body) ← j.tagged? "type"
  let fieldsOf := fun names : List String => body.record? names names.length
  match name with
  | "BOOLEAN" => (fieldsOf []).map fun _ => boolean
  | "DECIMAL" =>
    let fields ← fieldsOf ["precision", "scale"]
    return decimal (← Json.required? Json.uint32? "precision" fields)
      (← Json.required? Json.uint32? "scale" fields)
  | "DOUBLE" => (fieldsOf []).map fun _ => double
  | "VARCHAR" =>
    let fields ← fieldsOf ["size", "charset"]
    return varchar (← Json.required? Json.uint32? "size" fields)
      (← Json.required? charset? "charset" fields)
  | "CHAR" =>
    let fields ← fieldsOf ["size", "charset"]
    return char (← Json.required? Json.uint32? "size" fields)
      (← Json.required? charset? "charset" fields)
  | "DATE" => (fieldsOf []).map fun _ => date
  | "TIMESTAMP" =>
    let fields ← fieldsOf ["local_time_zone"]
    return timestamp (← Json.required? Json.bool? "local_time_zone" fields)
  | "INTERVAL_YEAR_TO_MONTH" =>
    let fields ← fieldsOf ["precision"]
    return intervalYearToMonth (← Json.required? Json.uint32? "precision" fields)
  | "INTERVAL_DAY_TO_SECOND" =>
    let fields ← fieldsOf ["precision", "fraction"]
    return intervalDayToSecond (← Json.required? Json.uint32? "precision" fields)
      (← Json.required? Json.uint32? "fraction" fields)
  | "GEOMETRY" =>
    let fields ← fieldsOf ["srid"]
    return geometry (← Json.required? Json.uint32? "srid" fields)
  | "UNSUPPORTED" => (fieldsOf []).map fun _ => unsupported
  | _ => none

end CanonicalType

/-- The reported type of a JSON form. -/
def RemoteType.ofJson? (j : Json) : Option RemoteType := do
  let fields ← j.record? ["type_code", "size", "scale", "type_name"] 4
  return {
    typeCode := ← Json.required? Json.int32? "type_code" fields
    size := ← Json.required? Json.int32? "size" fields
    scale := ← Json.required? Json.int32? "scale" fields
    typeName := ← Json.required? Json.string? "type_name" fields }

end RemoteQuery
