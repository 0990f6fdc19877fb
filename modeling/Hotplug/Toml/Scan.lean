/-!
# Scanning configuration documents

A scanner takes something off the front of a text, or fails. What documents are made of everywhere is
here: blanks, comments, ends of lines, and repetition.

## Main definitions

* `Hotplug.Toml.Scan`, `Hotplug.Toml.many`
* `Hotplug.Toml.lineEnd?`, `Hotplug.Toml.skipGaps`
-/

namespace Hotplug.Toml

/-- Takes something off the front of a text; answers it with what is left. -/
abbrev Scan (α : Type) := List Char → Option (α × List Char)

/-- Scans as often as possible, until the scanner fails or the text ends. `found` is what was scanned
so far, last first, and `measure` is never shorter than the text, since every scan takes something. -/
def manyOnto (scan : Scan α) : List Char → List α → List Char → List α × List Char
  | _, found, [] => (found.reverse, [])
  | [], found, text => (found.reverse, text)
  | _ :: measure, found, text =>
    match scan text with
    | none => (found.reverse, text)
    | some (a, rest) => manyOnto scan measure (a :: found) rest

/-- Scans as often as possible, with a scanner that takes at least one character each time. -/
def many (scan : Scan α) (text : List Char) : List α × List Char :=
  manyOnto scan text [] text

/-- Takes one character off. -/
def exactly (c : Char) : List Char → Option (List Char)
  | d :: rest => if d = c then some rest else none
  | [] => none

/-- Takes given characters off. -/
def word (expected : List Char) (text : List Char) : Option (List Char) :=
  if expected.isPrefixOf text then some (text.drop expected.length) else none

/-- Whether a character is a blank. -/
def isBlank (c : Char) : Bool :=
  c = ' ' || c = '\t'

/-- Whether a character may stand in comments and texts: no control character but the tab. -/
def isPlain (c : Char) : Bool :=
  c = '\t' || (0x20 ≤ c.toNat && c.toNat ≠ 0x7F)

/-- Skips blanks. -/
def skipBlanks (text : List Char) : List Char :=
  text.dropWhile isBlank

/-- Takes the end of a line off. -/
def newline? : List Char → Option (List Char)
  | '\n' :: rest => some rest
  | '\r' :: '\n' :: rest => some rest
  | _ => none

/-- Skips a comment. -/
def skipComment : List Char → List Char
  | '#' :: rest => rest.dropWhile isPlain
  | text => text

/-- Takes blanks, a comment and the end of a line or of the text off. -/
def lineEnd? (text : List Char) : Option (List Char) :=
  match skipComment (skipBlanks text) with
  | [] => some []
  | rest => newline? rest

/-- Takes blanks, a comment and the end of a line off. -/
def gapLine : Scan Unit := fun text =>
  (newline? (skipComment (skipBlanks text))).map fun rest => ((), rest)

/-- Skips blanks, comments and ends of lines. -/
def skipGaps (text : List Char) : List Char :=
  skipBlanks (many gapLine text).2

end Hotplug.Toml
