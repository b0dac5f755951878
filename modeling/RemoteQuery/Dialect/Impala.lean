import RemoteQuery.Capability.Set
import RemoteQuery.Calls.Form
import RemoteQuery.Target.Basic

/-!
# RemoteQuery.Dialect.Impala

Strings are unbounded, dates are moved by one function per unit, and
concatenation takes texts only.
-/

namespace RemoteQuery.Dialect.Impala

open Calls

/-- The facts about this target. -/
def profile : Profile where
  name := "IMPALA"
  quoteStyle := .backtick
  unquotedCase := .foldLower
  quotedCase := .foldLower
  scalarAliases :=
    [(.trim, "BTRIM"), (.trunc, "TRUNCATE"), (.bitAnd, "BITAND"), (.bitOr, "BITOR"),
     (.bitXor, "BITXOR"), (.addSeconds, "SECONDS_ADD"), (.addMinutes, "MINUTES_ADD"),
     (.addHours, "HOURS_ADD"), (.addDays, "DAYS_ADD"), (.addWeeks, "WEEKS_ADD"),
     (.addMonths, "MONTHS_ADD"), (.addYears, "YEARS_ADD")]
  aggregateAliases := [(.stddev, "STDDEV_SAMP"), (.variance, "VARIANCE_SAMP")]

/-- Strings are unbounded whatever size the driver reports. -/
def claimType (r : RemoteType) : Option CanonicalType :=
  if r.isNamed "STRING" then some (.maxVarchar .utf8) else none

/-- The scalar calls of this target that are not plain. -/
def scalarForm (f : ScalarFunction) (args : List String) : Option String :=
  match f with
  | .lpad => some (defaultedCall "LPAD" args 3 "' '")
  | .rpad => some (defaultedCall "RPAD" args 3 "' '")
  | .replace => some (defaultedCall "REPLACE" args 3 "''")
  | .div => some (operatorChain "DIV" args)
  | .concat => some (call "CONCAT" (textArguments (cast · "STRING") args))
  | _ => none

/-- The aggregate calls of this target that are not plain. -/
def aggregateForm (c : AggregateText) : Option String :=
  match c.function with
  | .groupConcat =>
    some ("GROUP_CONCAT(" ++ c.distinctWord ++ c.arg ++ ", " ++ c.separatorLiteral ++ ")")
  | _ => none

/-- The Impala target. -/
def target : Target where
  profile := profile
  claimType := claimType
  scalarForm := scalarForm
  aggregateForm := aggregateForm

/-- Rows are only skipped in ordered queries here, so no offset is declared. -/
def capabilities : CapabilitySet :=
  .relational ∪ .ofMain [.limit] ∪ .ofLiterals [.bool] ∪
    .ofAggregates [.stddev, .variance, .groupConcat, .groupConcatDistinct, .groupConcatSeparator]

end RemoteQuery.Dialect.Impala
