import RemoteQuery.Vocabulary

/-!
# RemoteQuery.Properties.SchemaNotes

What a driver reports about identifiers and ordering: the quote string and a
number of yes-or-no facts.
-/

namespace RemoteQuery

/-- The yes-or-no facts a driver reports. -/
inductive SchemaFlag where
  | storesUpperCase | storesLowerCase | storesMixedCase | supportsMixedCase
  | storesUpperCaseQuoted | storesLowerCaseQuoted | storesMixedCaseQuoted | supportsMixedCaseQuoted
  | nullsSortedHigh | nullsSortedLow | nullsSortedAtStart | nullsSortedAtEnd
  | supportsCatalogs | supportsSchemas
deriving DecidableEq

namespace SchemaFlag

instance : Vocabulary SchemaFlag where
  members :=
    [storesUpperCase, storesLowerCase, storesMixedCase, supportsMixedCase, storesUpperCaseQuoted,
     storesLowerCaseQuoted, storesMixedCaseQuoted, supportsMixedCaseQuoted, nullsSortedHigh,
     nullsSortedLow, nullsSortedAtStart, nullsSortedAtEnd, supportsCatalogs, supportsSchemas]
  word
    | storesUpperCase => "stores_upper_case_identifiers"
    | storesLowerCase => "stores_lower_case_identifiers"
    | storesMixedCase => "stores_mixed_case_identifiers"
    | supportsMixedCase => "supports_mixed_case_identifiers"
    | storesUpperCaseQuoted => "stores_upper_case_quoted_identifiers"
    | storesLowerCaseQuoted => "stores_lower_case_quoted_identifiers"
    | storesMixedCaseQuoted => "stores_mixed_case_quoted_identifiers"
    | supportsMixedCaseQuoted => "supports_mixed_case_quoted_identifiers"
    | nullsSortedHigh => "nulls_are_sorted_high"
    | nullsSortedLow => "nulls_are_sorted_low"
    | nullsSortedAtStart => "nulls_are_sorted_at_start"
    | nullsSortedAtEnd => "nulls_are_sorted_at_end"
    | supportsCatalogs => "supports_catalogs_in_data_manipulation"
    | supportsSchemas => "supports_schemas_in_data_manipulation"
  mem_members a := by cases a <;> decide
  nodup_words := by decide +kernel

end SchemaFlag

/-- What a driver reports about a schema. -/
structure SchemaNotes where
  /-- The quote string; a blank one means that quoting is unsupported. -/
  identifierQuote : String := ""
  /-- The facts that hold. -/
  holds : SchemaFlag → Bool := fun _ => false

/-- The facts that hold, in order. -/
def SchemaNotes.flags (n : SchemaNotes) : List SchemaFlag :=
  Vocabulary.members.filter n.holds

end RemoteQuery
