import Hotplug.Datum.Basic
/-!
# Trees of tables

What a configuration document has said so far. A table can be said in one place only: under a header
of its own, or by keys with dots. A table that is only on the way to others may still get a header.

## Main definitions

* `Hotplug.Toml.KeyPath`, `Hotplug.Toml.Item`, `Hotplug.Toml.Tree`
* `Hotplug.Toml.Tree.put?`: a key path gets a value.
* `Hotplug.Toml.Tree.openTable?`, `Hotplug.Toml.Tree.openElement?`: what headers do.
-/

namespace Hotplug.Toml

/-- Keys that lead to a place: those on the way, and the last one. -/
structure KeyPath where
  /-- The keys on the way. -/
  way : List String
  /-- The last key. -/
  last : String
  deriving DecidableEq, Repr

/-- Where a table was said. -/
inductive Origin
  /-- Under a header of its own. -/
  | header
  /-- On the way of a header to a table inside. -/
  | onTheWay
  /-- By keys with dots. -/
  | dots
  deriving DecidableEq, Repr

/-- What stands under a key. -/
inductive Item
  | value (datum : Datum)
  | table (origin : Origin) (entries : List (String × Item))
  /-- A list of tables: the earlier ones, which are complete, latest first, and the last one. -/
  | tables (earlier : List Datum) (last : List (String × Item))
  deriving Repr, Inhabited

/-- The entries of a table. -/
abbrev Tree := List (String × Item)

mutual

/-- An item as a value. -/
def Item.datum : Item → Datum
  | .value datum => datum
  | .table _ entries => .record (entryData entries)
  | .tables earlier last => .list (.record (entryData last) :: earlier).reverse

/-- Entries as values under names. -/
def entryData : List (String × Item) → List (String × Datum)
  | [] => []
  | (key, item) :: rest => (key, item.datum) :: entryData rest

end

namespace Tree

/-- The table as a value. -/
def record (tree : Tree) : Datum :=
  .record (entryData tree)

/-- Puts an item under a key, in place of an earlier one. -/
def set (tree : Tree) (key : String) (item : Item) : Tree :=
  match tree with
  | [] => [(key, item)]
  | (k, i) :: rest => if k = key then (key, item) :: rest else (k, i) :: set rest key item

/-- Puts a value under a key that is not taken. -/
def insert? (tree : Tree) (key : String) (datum : Datum) : Option Tree :=
  match tree.lookup key with
  | some _ => none
  | none => some (tree ++ [(key, .value datum)])

/-- Puts a value where keys with dots lead. The last table on the way has to be one that dots said;
one with a header is never entered. -/
def put? (tree : Tree) : List String → String → Datum → Option Tree
  | [], last, datum => tree.insert? last datum
  | key :: way, last, datum =>
    match tree.lookup key with
    | none => do return tree ++ [(key, .table .dots (← put? [] way last datum))]
    | some (.value _) => none
    | some (.table origin inner) =>
      if origin = .header ∨ (way = [] ∧ origin ≠ .dots) then none
      else do return set tree key (.table origin (← put? inner way last datum))
    | some (.tables earlier inner) =>
      if way = [] then none
      else do return set tree key (.tables earlier (← put? inner way last datum))

/-- Changes the table where the keys of a header lead. Tables that are not there come about on the
way; of a list of tables the last one is entered. -/
def within? (change : Tree → Option Tree) : List String → Tree → Option Tree
  | [], tree => change tree
  | key :: way, tree =>
    match tree.lookup key with
    | none => do return tree ++ [(key, .table .onTheWay (← within? change way []))]
    | some (.value _) => none
    | some (.table origin inner) => do
      return set tree key (.table origin (← within? change way inner))
    | some (.tables earlier inner) => do
      return set tree key (.tables earlier (← within? change way inner))

/-- The header of a table. -/
def openTable? (path : KeyPath) : Tree → Option Tree :=
  within? (fun tree =>
    match tree.lookup path.last with
    | none => some (tree ++ [(path.last, .table .header [])])
    | some (.table .onTheWay inner) => some (set tree path.last (.table .header inner))
    | some _ => none) path.way

/-- The header of one more table of a list. -/
def openElement? (path : KeyPath) : Tree → Option Tree :=
  within? (fun tree =>
    match tree.lookup path.last with
    | none => some (tree ++ [(path.last, .tables [] [])])
    | some (.tables earlier last) =>
      some (set tree path.last (.tables (record last :: earlier) []))
    | some _ => none) path.way

/-- The table that pairs make. -/
def ofPairs? (pairs : List (KeyPath × Datum)) : Option Tree :=
  pairs.foldlM (fun tree (path, datum) => put? tree path.way path.last datum) []

end Tree

end Hotplug.Toml
