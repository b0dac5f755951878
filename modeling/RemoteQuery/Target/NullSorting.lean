import RemoteQuery.Vocabulary

/-!
# RemoteQuery.Target.NullSorting

Where a target puts absent values when an ordering key does not say.
-/

namespace RemoteQuery

/-- Where absent values sort by default. -/
inductive NullSorting where
  /-- Greater than every value. -/
  | high
  /-- Less than every value. -/
  | low
  /-- Before all values in either direction. -/
  | atStart
  /-- After all values in either direction. -/
  | atEnd
deriving DecidableEq

namespace NullSorting

instance : Vocabulary NullSorting where
  members := [high, low, atStart, atEnd]
  word
    | high => "High"
    | low => "Low"
    | atStart => "AtStart"
    | atEnd => "AtEnd"
  mem_members a := by cases a <;> decide
  nodup_words := by decide +kernel

/-- Whether absent values come last for a key of the given direction. -/
def nullsLast : NullSorting → (ascending : Bool) → Bool
  | high, ascending => ascending
  | low, ascending => !ascending
  | atStart, _ => false
  | atEnd, _ => true

end NullSorting

end RemoteQuery
