import RemoteQuery.Capability.Set
import RemoteQuery.Json.Value

/-!
# RemoteQuery.Capability.JsonForm

The JSON form of a capability set: five lists of tokens in the order of their
vocabularies.
-/

namespace RemoteQuery

namespace TokenSet

/-- The JSON form of a set of tokens. -/
def toJson {α : Type} [Vocabulary α] (s : TokenSet α) : Json :=
  .ofList .ofWord s.toList

/-- The set of tokens of a JSON form; repeated tokens count once. -/
def ofJson? {α : Type} [DecidableEq α] [Vocabulary α] (j : Json) : Option (TokenSet α) :=
  (j.list? Json.word?).map ofList

end TokenSet

namespace CapabilitySet

/-- The JSON form of a capability set. -/
def toJson (s : CapabilitySet) : Json :=
  .object [("main", s.main.toJson), ("predicates", s.predicates.toJson),
    ("literals", s.literals.toJson), ("scalar_functions", s.scalars.toJson),
    ("aggregate_functions", s.aggregates.toJson)]

/-- The capability set of a JSON form. -/
def ofJson? (j : Json) : Option CapabilitySet := do
  let fields ← j.record?
    ["main", "predicates", "literals", "scalar_functions", "aggregate_functions"] 5
  return {
    main := ← Json.required? TokenSet.ofJson? "main" fields
    predicates := ← Json.required? TokenSet.ofJson? "predicates" fields
    literals := ← Json.required? TokenSet.ofJson? "literals" fields
    scalars := ← Json.required? TokenSet.ofJson? "scalar_functions" fields
    aggregates := ← Json.required? TokenSet.ofJson? "aggregate_functions" fields }

end CapabilitySet

end RemoteQuery
