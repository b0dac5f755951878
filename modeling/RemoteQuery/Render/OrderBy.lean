import RemoteQuery.Target.Profile

/-!
# RemoteQuery.Render.OrderBy

Ordering keys in the words of a target.  Where a target cannot say where absent
values go and its default is the other end, a key on their absence comes first.
-/

namespace RemoteQuery

/-- A written ordering key. -/
inductive SortKey where
  /-- A key on a value; the place of absent values may be stated. -/
  | value (sql : String) (ascending : Bool) (nullsLast : Option Bool)
  /-- A key on the absence of a value. -/
  | absence (sql : String) (nullsLast : Bool)
deriving DecidableEq

namespace SortKey

/-- The text of a key. -/
def text : SortKey → String
  | value sql ascending nullsLast =>
    sql ++ (if ascending then " ASC" else " DESC") ++
      (match nullsLast with
        | none => ""
        | some true => " NULLS LAST"
        | some false => " NULLS FIRST")
  | absence sql true => "CASE WHEN " ++ sql ++ " IS NULL THEN 1 ELSE 0 END"
  | absence sql false => "CASE WHEN " ++ sql ++ " IS NULL THEN 0 ELSE 1 END"

end SortKey

/-- The keys that order by a written expression as requested. -/
def Profile.sortKeys (d : Profile) (sql : String) (ascending nullsLast : Bool) :
    List SortKey :=
  if d.nullOrderingClause then [.value sql ascending (some nullsLast)]
  else if d.nullSorting.nullsLast ascending = nullsLast then [.value sql ascending none]
  else [.absence sql nullsLast, .value sql ascending none]

end RemoteQuery
