import RemoteQuery.Properties.DecimalOverride
import RemoteQuery.Properties.SchemaNotes

/-!
# RemoteQuery.Properties.Basic

The settings a dialect is built from.
-/

namespace RemoteQuery

/-- The settings of a dialect. -/
structure Properties where
  /-- The raw decimal override. -/
  castNumberToDecimal : Option String := none
  schemaNotes : Option SchemaNotes := none

/-- Why a dialect cannot be built from its schema notes. -/
inductive NotesError where
  | missing
  | quotingUnsupported
  | unknownQuote (quote : String)
  | unquotedCaseUnknown
  | quotedCaseUnknown
  | nullSortingUnknown
  | nullSortingAmbiguous
deriving DecidableEq

/-- What is wrong with the notes. -/
def NotesError.reason : NotesError → String
  | missing => "schema notes are required"
  | quotingUnsupported => "identifier quoting is unsupported"
  | unknownQuote q => "unknown identifier quote '" ++ q ++ "'"
  | unquotedCaseUnknown => "unquoted identifier case is undeterminable"
  | quotedCaseUnknown => "quoted identifier case is undeterminable"
  | nullSortingUnknown => "NULL sorting is not reported"
  | nullSortingAmbiguous => "NULL sorting is reported more than once"

/-- Why a dialect cannot be built. -/
inductive ConfigError where
  | invalidOverride (fault : InvalidOverride)
  | malformedNotes (dialect : String) (cause : NotesError)
deriving DecidableEq

/-- The message shown for a fault of the configuration. -/
def ConfigError.message : ConfigError → String
  | invalidOverride fault =>
    "Invalid value '" ++ fault.raw ++ "' for property " ++ DecimalOverride.property ++ ": " ++
      fault.cause.reason
  | malformedNotes dialect cause => "Malformed " ++ dialect ++ " dialect: " ++ cause.reason

namespace Properties

/-- The settings with a decimal override. -/
def withNumberOverride (p : Properties) (raw : String) : Properties :=
  { p with castNumberToDecimal := some raw }

/-- The settings with schema notes. -/
def withSchemaNotes (p : Properties) (notes : SchemaNotes) : Properties :=
  { p with schemaNotes := some notes }

/-- The decimal override, if one is set. -/
def numberOverride (p : Properties) : Except ConfigError (Option DecimalOverride) :=
  match p.castNumberToDecimal with
  | none => .ok none
  | some raw => ((DecimalOverride.parse raw).map some).mapError .invalidOverride

end Properties

end RemoteQuery
