/-!
# Blank characters and lines

The characters with the Unicode property `White_Space`, and trimming by them. Text is cut into lines
at line feeds; a carriage return in front of one belongs to the line end.

## Main definitions

* `Hotplug.Text.isBlank`, `Hotplug.Text.trim`
* `Hotplug.Text.lines`
-/

namespace Hotplug.Text

/-- The property `White_Space`, as ranges of code points. -/
def blankRanges : List (Nat × Nat) :=
  [(0x09, 0x0D), (0x20, 0x20), (0x85, 0x85), (0xA0, 0xA0), (0x1680, 0x1680), (0x2000, 0x200A),
   (0x2028, 0x2029), (0x202F, 0x202F), (0x205F, 0x205F), (0x3000, 0x3000)]

/-- Whether a character separates words. -/
def isBlank (c : Char) : Bool :=
  blankRanges.any fun (first, last) => first ≤ c.toNat && c.toNat ≤ last

/-- The characters without the blanks at either end. -/
def trimChars (text : List Char) : List Char :=
  (((text.dropWhile isBlank).reverse).dropWhile isBlank).reverse

/-- The text without the blanks at either end. -/
def trim (text : String) : String :=
  String.ofList (trimChars text.toList)

/-- Drops one carriage return at the end. -/
def dropReturn (line : List Char) : List Char :=
  match line.reverse with
  | '\r' :: rest => rest.reverse
  | _ => line

/-- The lines of a text, without their ends. A line feed at the very end starts no further line, and
only a line that ended in a line feed loses a carriage return. -/
def lines (text : List Char) : List (List Char) :=
  let pieces := text.splitOn '\n'
  let ended := pieces.dropLast.map dropReturn
  match pieces.getLast? with
  | none | some [] => ended
  | some open_ => ended ++ [open_]

end Hotplug.Text
