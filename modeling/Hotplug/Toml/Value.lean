import Hotplug.Toml.Number
import Hotplug.Toml.Text
import Hotplug.Toml.Tree
/-!
# Values in configuration documents

A value is a text, a number, a date, a yes or no, a list, or a table on one line. Lists may span
several lines. Lists and tables may contain each other, but only so deep.

## Main definitions

* `Hotplug.Toml.key`, `Hotplug.Toml.keyPath`
* `Hotplug.Toml.value`
-/

namespace Hotplug.Toml

/-- How many lists and tables may lie around a value, and how many keys a path may have. -/
def deepest : Nat := 79

/-- Whether a character may stand in a key without quotes. -/
def isBareKey (c : Char) : Bool :=
  ('a' ≤ c && c ≤ 'z') || ('A' ≤ c && c ≤ 'Z') || ('0' ≤ c && c ≤ '9') || c = '_' || c = '-'

/-- A key. -/
def key : Scan String := fun text =>
  match text.span isBareKey with
  | ([], _) => quoted text
  | (cs, rest) => some (String.ofList cs, rest)

/-- A key with blanks around it. -/
def spacedKey : Scan String := fun text => do
  let (name, rest) ← key (skipBlanks text)
  return (name, skipBlanks rest)

/-- Keys with dots in between: those before the last one, and the last one. -/
def keyPath : Scan KeyPath := fun text => do
  let (first, rest) ← spacedKey text
  let (more, rest) := many (fun text => do spacedKey (← exactly '.' text)) rest
  let keys := first :: more
  if deepest < keys.length then none
  return (⟨keys.dropLast, keys.getLastD first⟩, rest)

/-- A key path and a value with `=` in between. -/
def pair (value : Scan Datum) : Scan (KeyPath × Datum) := fun text => do
  let (path, rest) ← keyPath text
  let (datum, rest) ← value (skipBlanks (← exactly '=' rest))
  return ((path, datum), skipBlanks rest)

/-- What stands between brackets: values with commas in between, and a comma behind the last one if
wanted. -/
def list (value : Scan Datum) : Scan Datum := fun text =>
  let element : Scan Datum := fun text => do
    let (datum, rest) ← value (skipGaps text)
    return (datum, skipGaps rest)
  match element text with
  | none => do return (.list [], ← exactly ']' (skipGaps text))
  | some (first, rest) => do
    let (more, rest) := many (fun text => do element (← exactly ',' text)) rest
    let rest := ((exactly ',' rest).map skipGaps).getD rest
    return (.list (first :: more), ← exactly ']' rest)

/-- What stands between braces: pairs with commas in between, all on one line. -/
def inlineTable (value : Scan Datum) : Scan Datum := fun text =>
  let member := fun text => pair value (skipBlanks text)
  match member text with
  | none => do return (.record [], ← exactly '\x7d' (skipBlanks text))
  | some (first, rest) => do
    let (more, rest) := many (fun text => do member (← exactly ',' text)) rest
    let entries ← Tree.ofPairs? (first :: more)
    return (Tree.record entries, ← exactly '\x7d' rest)

/-- A value that contains no other. -/
def simple : Scan Datum := fun text =>
  match text with
  | '"' :: _ | '\'' :: _ => (Toml.text text).map fun (value, rest) => (.text value, rest)
  | 't' :: _ => (word "true".toList text).map fun rest => (.flag true, rest)
  | 'f' :: _ => (word "false".toList text).map fun rest => (.flag false, rest)
  | _ => number text

/-- A value with so many lists and tables inside each other at most. -/
def valueWithin : Nat → Scan Datum
  | 0 => simple
  | depth + 1 => fun text =>
    match text with
    | '[' :: rest => list (valueWithin depth) rest
    | '\x7b' :: rest => inlineTable (valueWithin depth) rest
    | _ => simple text

/-- A value. -/
def value : Scan Datum :=
  valueWithin deepest

end Hotplug.Toml
