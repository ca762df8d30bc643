/-
  Maps from names to values, kept in the order of the names.

  Names are ordered by their characters' code points.  `upsert` changes the value of one name and adds
  the name if it is new; `count` uses it to count the members of a list.

  * `total_count`: the counts of a list add up to its length.
-/

namespace Descent

/-- Names with values, in the order of the names. -/
structure SortedMap (α : Type) where
  entries : List (String × α)
deriving DecidableEq, Repr

namespace SortedMap

variable {α : Type}

/-- The map without entries. -/
def empty : SortedMap α := ⟨[]⟩

/-- Change the value of a name in a list of entries. -/
def upsertIn (name : String) (change : Option α → α) : List (String × α) → List (String × α)
  | [] => [(name, change none)]
  | (k, v) :: rest =>
    if name = k then (k, change (some v)) :: rest
    else if name < k then (name, change none) :: (k, v) :: rest
    else (k, v) :: upsertIn name change rest

/-- Change the value of a name. -/
def upsert (m : SortedMap α) (name : String) (change : Option α → α) : SortedMap α :=
  ⟨upsertIn name change m.entries⟩

/-- Give a name a value, whatever it had before. -/
def insert (m : SortedMap α) (name : String) (value : α) : SortedMap α := m.upsert name fun _ => value

/-- The value of a name. -/
def get? (m : SortedMap α) (name : String) : Option α := m.entries.lookup name

/-- Count one more of a name. -/
def increment (m : SortedMap Nat) (name : String) : SortedMap Nat := m.upsert name fun n => n.getD 0 + 1

/-- How often each name occurs. -/
def count (names : List String) : SortedMap Nat := names.foldl increment empty

/-- The sum of the values. -/
def total (m : SortedMap Nat) : Nat := m.entries.foldr (fun e sum => e.2 + sum) 0

theorem total_upsertIn_increment (name : String) (es : List (String × Nat)) :
    total ⟨upsertIn name (fun n => n.getD 0 + 1) es⟩ = total ⟨es⟩ + 1 := by
  induction es with
  | nil => rfl
  | cons e es ih =>
    simp only [total] at ih ⊢
    simp only [upsertIn]
    split <;> (try split) <;> simp_all <;> omega

@[simp] theorem total_increment (m : SortedMap Nat) (name : String) :
    (m.increment name).total = m.total + 1 := total_upsertIn_increment name m.entries

theorem total_foldl_increment (m : SortedMap Nat) (names : List String) :
    (names.foldl increment m).total = m.total + names.length := by
  induction names generalizing m with
  | nil => rfl
  | cons n ns ih => simp [ih, Nat.add_assoc, Nat.add_comm 1]

/-- The counts of a list add up to its length. -/
theorem total_count (names : List String) : (count names).total = names.length := by
  rw [count, total_foldl_increment]; simp [total, empty]

end SortedMap

end Descent
