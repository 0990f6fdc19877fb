import Hotplug.Toml.Value
/-!
# Configuration documents

A document is a sequence of lines: pairs of a key and a value, headers of tables, headers of tables in
lists, and lines that say nothing. Pairs belong to the table of the last header.

## Main definitions

* `Hotplug.Toml.Line`, `Hotplug.Toml.lines?`
* `Hotplug.Toml.document?`: the value of a document.
-/

namespace Hotplug.Toml

/-- What a line says. -/
inductive Line
  /-- Nothing. -/
  | blank
  /-- A value at a place. -/
  | pair (path : KeyPath) (datum : Datum)
  /-- A table follows. -/
  | table (path : KeyPath)
  /-- One more table of a list follows. -/
  | element (path : KeyPath)
  deriving Repr

/-- What stands between the brackets of a header. -/
def headerPath (close : List Char) : Scan KeyPath := fun text => do
  let (path, rest) ← keyPath text
  return (path, ← word close rest)

/-- What a line that is not blank says, up to its end. -/
def content : Scan Line := fun text =>
  match text with
  | '[' :: '[' :: rest => (headerPath "]]".toList rest).map fun (path, rest) => (.element path, rest)
  | '[' :: rest => (headerPath "]".toList rest).map fun (path, rest) => (.table path, rest)
  | _ => (pair value text).map fun ((path, datum), rest) => (.pair path datum, rest)

/-- A line with its end. -/
def line : Scan Line := fun text =>
  match lineEnd? text with
  | some rest => some (.blank, rest)
  | none => do
    let (said, rest) ← content (skipBlanks text)
    return (said, ← lineEnd? rest)

/-- The lines of a text; every one has to be in order. -/
def lines? (text : List Char) : Option (List Line) :=
  match many line text with
  | (lines, []) => some lines
  | _ => none

/-- A tree in the making, and the way to the table that pairs belong to. -/
structure Draft where
  tree : Tree := []
  /-- The way. -/
  place : List String := []

/-- Takes in what a line says. -/
def Draft.add? (draft : Draft) : Line → Option Draft
  | .blank => some draft
  | .pair path datum => do
    let tree ← Tree.within? (Tree.put? · path.way path.last datum) draft.place draft.tree
    return { draft with tree }
  | .table path => do return ⟨← Tree.openTable? path draft.tree, path.way ++ [path.last]⟩
  | .element path => do return ⟨← Tree.openElement? path draft.tree, path.way ++ [path.last]⟩

/-- A byte order mark at the start does not count. -/
def skipMark : List Char → List Char
  | '\ufeff' :: rest => rest
  | text => text

/-- The value of a document. -/
def document? (text : String) : Option Datum := do
  let lines ← lines? (skipMark text.toList)
  let draft ← lines.foldlM Draft.add? {}
  return Tree.record draft.tree

end Hotplug.Toml
