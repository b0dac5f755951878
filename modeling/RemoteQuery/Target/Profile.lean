import RemoteQuery.Query.Function
import RemoteQuery.Target.Identifier
import RemoteQuery.Target.NullSorting
import RemoteQuery.Target.RowLimiting
import RemoteQuery.Types.Mapping

/-!
# RemoteQuery.Target.Profile

Everything about a target that is data: quoting, qualification, defaults of
ordering and limiting, and the target's own names of functions.
-/

namespace RemoteQuery

/-- The fixed facts about a target. -/
structure Profile where
  name : String
  quoteStyle : QuoteStyle := .double
  unquotedCase : CaseHandling := .foldUpper
  quotedCase : CaseHandling := .caseSensitive
  /-- Whether table names carry their catalog. -/
  qualifiesCatalog : Bool := false
  /-- Whether table names carry their schema. -/
  qualifiesSchema : Bool := true
  nullSorting : NullSorting := .high
  /-- Whether `NULLS FIRST` and `NULLS LAST` can be written. -/
  nullOrderingClause : Bool := true
  limitStrategy : LimitStrategy := .trailing
  numericFallback : NumericFallback := .double
  scalarAliases : List (ScalarFunction × String) := []
  aggregateAliases : List (AggregateFunction × String) := []
  /-- Functions the target accepts with fewer arguments than the generic form. -/
  scalarMaxArgs : List (ScalarFunction × Nat) := []
  /-- Aggregates whose result has no precision unless it is cast. -/
  castAggregates : List AggregateFunction := []
  /-- Scalar functions whose result has no precision unless it is cast. -/
  castScalars : List ScalarFunction := []
  /-- The type such results are cast to. -/
  doubleType : String := "DOUBLE PRECISION"

namespace Profile

/-- The identifier in quotes. -/
def quote (d : Profile) (s : String) : String :=
  d.quoteStyle.quote s

/-- The identifier, bare if the target reads it back unchanged. -/
def identifierText (d : Profile) (s : String) : String :=
  if d.unquotedCase.isSimple s && !isReservedWord s then s else d.quote s

/-- The target's own name of a scalar function, if it has one. -/
def scalarAlias? (d : Profile) (f : ScalarFunction) : Option String :=
  d.scalarAliases.lookup f

/-- The target's own name of an aggregate function, if it has one. -/
def aggregateAlias? (d : Profile) (f : AggregateFunction) : Option String :=
  d.aggregateAliases.lookup f

/-- The name a scalar function is called by. -/
def scalarName (d : Profile) (f : ScalarFunction) : String :=
  (d.scalarAlias? f).getD f.name

/-- The name an aggregate function is called by. -/
def aggregateName (d : Profile) (f : AggregateFunction) : String :=
  (d.aggregateAlias? f).getD f.name

/-- The numbers of arguments the target accepts. -/
def scalarArity (d : Profile) (f : ScalarFunction) : Arity :=
  match d.scalarMaxArgs.lookup f with
  | none => f.arity
  | some bound => ⟨f.arity.least, some (f.arity.most.elim bound fun most => min most bound)⟩

/-- Whether the result of an aggregate is cast in a select list. -/
def castsAggregate (d : Profile) (f : AggregateFunction) : Bool :=
  d.castAggregates.contains f

/-- Whether the result of a scalar function is cast in a select list. -/
def castsScalar (d : Profile) (f : ScalarFunction) : Bool :=
  d.castScalars.contains f

end Profile

end RemoteQuery
