import RemoteQuery.Properties.Basic
import RemoteQuery.Toml.Reader

/-!
# RemoteQuery.Properties.Form

The settings of a dialect as a TOML document or a JSON object.  Unknown
settings are refused; unknown notes are not.
-/

namespace RemoteQuery

namespace SchemaNotes

/-- The names of the notes: the quote string and the facts. -/
def fieldNames : List String :=
  "identifier_quote" :: (Vocabulary.members : List SchemaFlag).map Vocabulary.word

/-- The notes of an object; a fact that is not stated does not hold. -/
def ofJson? (j : Json) : Option SchemaNotes := do
  let fields ← j.record? fieldNames 0
  let quote ← Json.defaulted? Json.string? "" "identifier_quote" fields
  let stated ← (Vocabulary.members : List SchemaFlag).mapM fun flag =>
    (Json.defaulted? Json.bool? false (Vocabulary.word flag) fields).map (flag, ·)
  return { identifierQuote := quote, holds := fun flag => (stated.lookup flag).getD false }

/-- The notes of a TOML value; items of an array after those that are notes do not count. -/
def ofToml? : Json → Option SchemaNotes
  | .array items => ofJson? (.array (items.take fieldNames.length))
  | j => ofJson? j

end SchemaNotes

namespace Properties

/-- The names of the settings. -/
def fieldNames : List String :=
  [DecimalOverride.property, "schema_notes"]

/-- The settings of a record, given the reader of notes. -/
def ofRecord? (notes? : Json → Option SchemaNotes) (j : Json) : Option Properties := do
  let fields ← j.record? fieldNames 0
  if fields.all fun (name, _) => fieldNames.contains name then
    return {
      castNumberToDecimal := ← Json.optional? Json.string? DecimalOverride.property fields
      schemaNotes := ← Json.optional? notes? "schema_notes" fields }
  else none

/-- The settings of a JSON value. -/
def ofJson? (j : Json) : Option Properties :=
  ofRecord? SchemaNotes.ofJson? j

/-- The settings of a TOML document. -/
def ofToml? (doc : String) : Option Properties :=
  (Toml.parse? doc).bind (ofRecord? SchemaNotes.ofToml?)

end Properties

end RemoteQuery
