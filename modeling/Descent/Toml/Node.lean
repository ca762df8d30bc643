/-
  What a TOML document holds.

  A document is a tree of tables and arrays over single values.  Every value knows the stretch of text it
  was read from, and every table how it came about, which decides what may still be added to it.

  * `Node.enter` goes into a child on the way to a table, and `Node.within` changes the table at the end
    of a path.
-/
import Descent.Decimal.Double

namespace Descent.Toml

/-- A stretch of a text, in characters from its start. -/
structure Extent where
  start : Nat
  stop : Nat
deriving DecidableEq, Repr

/-- A key, with the stretch it was read from. -/
structure Key where
  name : String
  extent : Extent
deriving DecidableEq, Repr

/-- A single value.  Of points in time only the presence counts. -/
inductive Scalar where
  | str (s : String)
  | int (n : Int)
  | float (x : Double)
  | bool (b : Bool)
  | moment
deriving DecidableEq, Repr

/-- How a table came about. -/
inductive Origin where
  /-- It has a header, or is the document. -/
  | header
  /-- A longer header goes through it. -/
  | implied
  /-- A dotted key goes through it. -/
  | dotted
  /-- It is written in braces. -/
  | braces
deriving DecidableEq, Repr

/-- A value, array or table.  Tables without header or braces have no stretch of their own. -/
inductive Node where
  | leaf (extent : Extent) (scalar : Scalar)
  | array (extent : Extent) (items : List Node)
  /-- Tables that have a header of one name. -/
  | tables (items : List Node)
  | table (extent : Option Extent) (origin : Origin) (entries : List (Key × Node))

/-- The entries of a table in order. -/
abbrev Entries := List (Key × Node)

namespace Entries

/-- The value of a key. -/
def get? (name : String) (es : Entries) : Option Node := (es.find? fun e => e.1.name == name).map (·.2)

/-- Give a key that is there another value. -/
def replace (name : String) (n : Node) (es : Entries) : Entries :=
  es.map fun e => if e.1.name == name then (e.1, n) else e

/-- Take a key away. -/
def erase (name : String) (es : Entries) : Entries := es.filter fun e => e.1.name != name

end Entries

namespace Node

/-- The extent of a table, if a node is one that has an extent. -/
def tableExtent? : Node → Option Extent
  | table extent _ _ => extent
  | _ => none

/-- The stretch of a node.  Tables of one name stretch from the first to the last. -/
def extent? : Node → Option Extent
  | leaf extent _ | array extent _ => some extent
  | table extent _ _ => extent
  | tables items => do
    let first ← items.head?.bind tableExtent?
    let last ← items.getLast?.bind tableExtent?
    return ⟨first.start, last.stop⟩

/-- A table without entries. -/
def emptyTable (extent : Option Extent) (origin : Origin) : Node := table extent origin []

/-- A change of a node that may be refused and yields something else besides. -/
abbrev Change (α : Type) := Node → Option (α × Node)

/-- Change a child on the way to a table.  Of tables of one name it is the last.  Braces are closed, and
dotted keys do not lead through what has a header. -/
def enter {α : Type} (byKey : Bool) (change : Change α) : Change α
  | table extent origin entries =>
    if origin = .braces ∨ (byKey ∧ origin = .header) then none else change (table extent origin entries)
  | tables items => do
    let (a, last) ← change (← items.getLast?)
    return (a, tables (items.dropLast ++ [last]))
  | _ => none

/-- Change the table at the end of a path.  Where there is no table on the way, one is made. -/
def within {α : Type} (byKey : Bool) : List Key → Change α → Change α
  | [], change, node => change node
  | key :: path, change, table extent origin entries =>
    match Entries.get? key.name entries with
    | none => do
      let made := emptyTable none (if byKey then .dotted else .implied)
      let (a, child) ← within byKey path change made
      return (a, table extent origin (entries ++ [(key, child)]))
    | some child => do
      let (a, child) ← enter byKey (within byKey path change) child
      return (a, table extent origin (Entries.replace key.name child entries))
  | _ :: _, _, _ => none

/-- Add a value under a dotted key, which must not be taken.  All tables on its way must come from dotted
keys. -/
def add (node : Node) (path : List Key) (key : Key) (value : Node) : Option Node :=
  let put : Change Unit := fun n =>
    match n with
    | table extent origin entries =>
      if (path.isEmpty ∨ origin = .dotted) ∧ (Entries.get? key.name entries).isNone then
        some ((), table extent origin (entries ++ [(key, value)]))
      else none
    | _ => none
  (within true path put node).map (·.2)

end Node

end Descent.Toml
