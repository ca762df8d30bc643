/-
  Documents in the making.

  The table of the last header is kept apart until the next header or the end, and put in its place then.
  A table that longer headers went through before comes after those that were put in place meanwhile.

  * `Draft.add` adds a value to the table of the last header, and `Draft.begin?` begins a table.
  * `Draft.close` puts the last table in its place.
-/
import Descent.Toml.Node

namespace Descent.Toml

/-- The tables in their places, and the table of the last header with its path. -/
structure Draft where
  root : Node
  current : Node
  path : List Key
  /-- Whether the current table is one of several of one name. -/
  repeated : Bool

namespace Draft

/-- The draft of an empty document. -/
def empty : Draft := ⟨.emptyTable none .header, .emptyTable none .header, [], false⟩

/-- Put a table in its place. -/
def place (repeated : Bool) (key : Key) (t : Node) : Node.Change Unit
  | .table extent origin entries =>
    match repeated, Entries.get? key.name entries with
    | true, some (.tables items) =>
      some ((), .table extent origin (Entries.replace key.name (.tables (items ++ [t])) entries))
    | false, none => some ((), .table extent origin (entries ++ [(key, t)]))
    | _, _ => none
  | _ => none

/-- Put the current table in its place. -/
def close (d : Draft) : Option Node :=
  match d.path.getLast? with
  | none => some d.current
  | some key => (Node.within false d.path.dropLast (place d.repeated key d.current) d.root).map (·.2)

/-- Make sure that there is room for tables of one name. -/
def reserve (key : Key) : Node.Change Unit
  | .table extent origin entries =>
    match Entries.get? key.name entries with
    | none => some ((), .table extent origin (entries ++ [(key, .tables [])]))
    | some (.tables _) => some ((), .table extent origin entries)
    | some _ => none
  | _ => none

/-- Take away a table that longer headers went through; its entries. -/
def vacate (key : Key) : Node.Change Entries
  | .table extent origin entries =>
    match Entries.get? key.name entries with
    | none => some ([], .table extent origin entries)
    | some (.table _ .implied held) => some (held, .table extent origin (Entries.erase key.name entries))
    | some _ => none
  | _ => none

/-- Begin the table of a header. -/
def begin? (d : Draft) (repeated : Bool) (path : List Key) (extent : Extent) : Option Draft := do
  let root ← d.close
  let key ← path.getLast?
  if repeated then
    let ((), root) ← Node.within false path.dropLast (reserve key) root
    return ⟨root, .emptyTable (some extent) .header, path, true⟩
  else
    let (held, root) ← Node.within false path.dropLast (vacate key) root
    return ⟨root, .table (some extent) .header held, path, false⟩

/-- Stretch a table to the end of its last value. -/
def stretch (stop : Nat) : Node → Node
  | .table (some extent) origin entries => .table (some ⟨extent.start, stop⟩) origin entries
  | n => n

/-- Add a value to the current table. -/
def add (d : Draft) (path : List Key) (key : Key) (value : Node) (stop : Nat) : Option Draft := do
  return { d with current := stretch stop (← d.current.add path key value) }

end Draft

end Descent.Toml
