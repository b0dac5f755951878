import RemoteQuery.Json.Value

/-!
# RemoteQuery.Toml.Table

The tables of a TOML document while it is read.  A table remembers how it came
into being, because that decides who may still add to it: a table can be opened
by one header, and a table made by dotted keys only grows by dotted keys.
-/

namespace RemoteQuery.Toml

/-- A table with entries of type `α`. -/
structure Table (α : Type) where
  /-- Whether no header has opened the table itself. -/
  implicit : Bool
  /-- Whether dotted keys made the table. -/
  dotted : Bool
  entries : List (String × α)

/-- What a key stands for. -/
inductive Item where
  /-- A finished value. -/
  | value (j : Json)
  | table (t : Table Item)
  /-- Tables that repeated headers open, in order. -/
  | tables (ts : List (Table Item))

/-- A table of items. -/
abbrev Items := Table Item

namespace Items

/-- A table without entries that a header or a document opens. -/
def opened : Items := ⟨false, false, []⟩

/-- The item of a key. -/
def get? (t : Items) (key : String) : Option Item :=
  t.entries.lookup key

/-- The table with the item of a key replaced, or added at the end. -/
def set (t : Items) (key : String) (item : Item) : Items :=
  if (t.get? key).isSome then
    { t with entries := t.entries.map fun (k, i) => if k == key then (k, item) else (k, i) }
  else { t with entries := t.entries ++ [(key, item)] }

/-- Changes the table at a path; missing tables on the way are made.  Dotted keys may not enter a
table that a header opened. -/
def alter (dotted : Bool) (change : Items → Option Items) : List String → Items → Option Items
  | [], t => change t
  | k :: ks, t =>
    match t.get? k with
    | none => (alter dotted change ks ⟨true, dotted, []⟩).map fun c => t.set k (.table c)
    | some (.table c) =>
      if dotted && !c.implicit then none
      else (alter dotted change ks c).map fun c => t.set k (.table c)
    | some (.tables cs) =>
      match cs.getLast? with
      | some c => (alter dotted change ks c).map fun c => t.set k (.tables (cs.dropLast ++ [c]))
      | none => none
    | some (.value _) => none

/-- Adds a value under a dotted key. -/
def insert (path : List String) (key : String) (j : Json) (t : Items) : Option Items :=
  let add := fun t : Items =>
    if t.dotted == path.isEmpty || (t.get? key).isSome then none else some (t.set key (.value j))
  alter true add path t

/-- Opens the table of a header in the table around it. -/
def openTable (key : String) (t : Items) : Option Items :=
  match t.get? key with
  | none => some (t.set key (.table opened))
  | some (.table c) =>
    if c.implicit && !c.dotted then some (t.set key (.table { c with implicit := false })) else none
  | _ => none

/-- Opens one more of the tables of a repeated header. -/
def openNext (key : String) (t : Items) : Option Items :=
  match t.get? key with
  | none => some (t.set key (.tables [opened]))
  | some (.tables cs) => some (t.set key (.tables (cs ++ [opened])))
  | _ => none

end Items

mutual

/-- The value of an item. -/
def Item.toJson : Item → Json
  | .value j => j
  | .table ⟨_, _, entries⟩ => .object (entriesToJson entries)
  | .tables ts => .array (tablesToJson ts)
termination_by structural i => i

/-- The values of the entries of a table. -/
def entriesToJson : List (String × Item) → List (String × Json)
  | [] => []
  | (k, i) :: rest => (k, i.toJson) :: entriesToJson rest
termination_by structural es => es

/-- The values of tables. -/
def tablesToJson : List (Table Item) → List Json
  | [] => []
  | ⟨_, _, entries⟩ :: ts => .object (entriesToJson entries) :: tablesToJson ts
termination_by structural ts => ts

end

end RemoteQuery.Toml
