import RemoteQuery.Capability.Set
import RemoteQuery.Properties.Basic
import RemoteQuery.Target.Basic
import RemoteQuery.Text.Blank

/-!
# RemoteQuery.Dialect.Generic

A dialect built from what a driver reports about its schema.  It declares only
what every target agrees on, and it cannot be built when the notes leave
quoting, the case of identifiers or the place of absent values open.
-/

namespace RemoteQuery.Dialect.Generic

/-- The quote style of a quote string. -/
def quoteStyle (n : SchemaNotes) : Except NotesError QuoteStyle :=
  let quote := Text.trim n.identifierQuote
  if quote == "\"" then .ok .double
  else if quote == "\x60" then .ok .backtick
  else if quote == "[" || quote == "[]" then .ok .bracket
  else if quote == "" then .error .quotingUnsupported
  else .error (.unknownQuote quote)

/-- The treatment of case that four facts imply; the first that holds decides. -/
def caseHandling (supportsMixed storesUpper storesLower storesMixed : Bool) : Option CaseHandling :=
  if supportsMixed then some .caseSensitive
  else if storesUpper then some .foldUpper
  else if storesLower then some .foldLower
  else if storesMixed then some .caseSensitive
  else none

/-- The treatment of identifiers written bare. -/
def unquotedCase (n : SchemaNotes) : Option CaseHandling :=
  caseHandling (n.holds .supportsMixedCase) (n.holds .storesUpperCase) (n.holds .storesLowerCase)
    (n.holds .storesMixedCase)

/-- The treatment of quoted identifiers. -/
def quotedCase (n : SchemaNotes) : Option CaseHandling :=
  caseHandling (n.holds .supportsMixedCaseQuoted) (n.holds .storesUpperCaseQuoted)
    (n.holds .storesLowerCaseQuoted) (n.holds .storesMixedCaseQuoted)

/-- The facts about the place of absent values, with what each says. -/
def nullSortings : List (SchemaFlag × NullSorting) :=
  [(.nullsSortedHigh, .high), (.nullsSortedLow, .low), (.nullsSortedAtStart, .atStart),
   (.nullsSortedAtEnd, .atEnd)]

/-- The place of absent values; exactly one fact has to hold. -/
def nullSorting (n : SchemaNotes) : Except NotesError NullSorting :=
  match nullSortings.filter fun p => n.holds p.1 with
  | [] => .error .nullSortingUnknown
  | [(_, sorting)] => .ok sorting
  | _ => .error .nullSortingAmbiguous

/-- The profile the notes determine. -/
def profileOf (n : SchemaNotes) : Except NotesError Profile := do
  let style ← quoteStyle n
  let unquoted ← (unquotedCase n).elim (.error .unquotedCaseUnknown) .ok
  let quoted ← (quotedCase n).elim (.error .quotedCaseUnknown) .ok
  let sorting ← nullSorting n
  return {
    name := "GENERIC"
    quoteStyle := style
    unquotedCase := unquoted
    quotedCase := quoted
    qualifiesCatalog := n.holds .supportsCatalogs
    qualifiesSchema := n.holds .supportsSchemas
    nullSorting := sorting
    nullOrderingClause := false }

/-- The target of the notes of a configuration. -/
def target (p : Properties) : Except ConfigError Target :=
  match p.schemaNotes with
  | none => .error (.malformedNotes "GENERIC" .missing)
  | some n =>
    match profileOf n with
    | .error cause => .error (.malformedNotes "GENERIC" cause)
    | .ok d => .ok { profile := d }

/-- What every target can do. -/
def capabilities : CapabilitySet :=
  .standardMain ∪ .everyPredicate ∪ .ofLiterals [.null, .double, .exactNumeric, .string] ∪
    .ofScalars [.add, .sub, .mult, .neg] ∪ .standardAggregates

end RemoteQuery.Dialect.Generic
