/-!
# Tables

Values under keys. A key has at most one value that counts; a new key goes to the end.

## Main definitions

* `Hotplug.Table`, with `get?`, `insert`, `update`, `erase`

Each operation has one equation that says what it does to `get?`.
-/

namespace Hotplug

/-- Values under keys. -/
structure Table (κ α : Type) where
  /-- Keys with their values, in the order in which the keys came in. -/
  entries : List (κ × α) := []
  deriving DecidableEq, Repr

namespace Table

variable {κ α : Type} [DecidableEq κ]

/-- The value under a key in a list of entries. -/
def find? (key : κ) : List (κ × α) → Option α
  | [] => none
  | (k, v) :: rest => if k = key then some v else find? key rest

/-- Puts a value under a key in a list of entries. -/
def put (key : κ) (value : α) : List (κ × α) → List (κ × α)
  | [] => [(key, value)]
  | (k, v) :: rest => if k = key then (key, value) :: rest else (k, v) :: put key value rest

/-- The value under a key. -/
def get? (table : Table κ α) (key : κ) : Option α :=
  find? key table.entries

/-- Whether a key has a value. -/
def contains (table : Table κ α) (key : κ) : Bool :=
  (table.get? key).isSome

/-- Puts a value under a key, in place of an earlier one. -/
def insert (table : Table κ α) (key : κ) (value : α) : Table κ α :=
  ⟨put key value table.entries⟩

/-- Changes the value under a key, if there is one. -/
def update (table : Table κ α) (key : κ) (f : α → α) : Table κ α :=
  ⟨table.entries.map fun (k, v) => if k = key then (k, f v) else (k, v)⟩

/-- Changes every value. -/
def map (table : Table κ α) (f : α → α) : Table κ α :=
  ⟨table.entries.map fun (k, v) => (k, f v)⟩

/-- Takes a key out. -/
def erase (table : Table κ α) (key : κ) : Table κ α :=
  ⟨table.entries.filter (·.1 ≠ key)⟩

/-- The keys, in order. -/
def keys (table : Table κ α) : List κ :=
  table.entries.map (·.1)

/-- The values, in the order of their keys. -/
def values (table : Table κ α) : List α :=
  table.entries.map (·.2)

@[simp] theorem get?_empty (key : κ) : ({} : Table κ α).get? key = none := rfl

theorem get?_insert (table : Table κ α) (key other : κ) (value : α) :
    (table.insert key value).get? other = if other = key then some value else table.get? other := by
  simp only [get?, insert]
  induction table.entries with
  | nil => grind [find?, put]
  | cons entry rest ih => grind [find?, put]

theorem get?_update (table : Table κ α) (key other : κ) (f : α → α) :
    (table.update key f).get? other =
      if other = key then (table.get? other).map f else table.get? other := by
  simp only [get?, update]
  induction table.entries with
  | nil => simp [find?]
  | cons entry rest ih => grind [find?]

theorem get?_map (table : Table κ α) (key : κ) (f : α → α) :
    (table.map f).get? key = (table.get? key).map f := by
  simp only [get?, map]
  induction table.entries with
  | nil => simp [find?]
  | cons entry rest ih => grind [find?]

theorem get?_erase (table : Table κ α) (key other : κ) :
    (table.erase key).get? other = if other = key then none else table.get? other := by
  simp only [get?, erase]
  induction table.entries with
  | nil => simp [find?]
  | cons entry rest ih => grind [find?]

end Table

end Hotplug
