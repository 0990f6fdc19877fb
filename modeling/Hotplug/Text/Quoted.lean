import Hotplug.Text.Number
import Hotplug.Text.Printable
/-!
# Quoted text

A text between double quotes, written so that it can be read back from one line: quotes and
backslashes take a backslash, four control characters have a letter, and every other character that
is not printable is written by its code point.

## Main definitions

* `Hotplug.Text.quote`
-/

namespace Hotplug.Text

/-- The written form of one character between double quotes. -/
def quoteChar (c : Char) : List Char :=
  if c = '"' ∨ c = '\\' then ['\\', c]
  else if c = '\t' then ['\\', 't']
  else if c = '\n' then ['\\', 'n']
  else if c = '\r' then ['\\', 'r']
  else if c = '\x00' then ['\\', '0']
  else if isPrintable c then [c]
  else ['\\', 'u', '\x7b'] ++ (Number.hex c.toNat).toList ++ ['\x7d']

/-- The text between double quotes. -/
def quote (text : String) : String :=
  String.ofList ('"' :: text.toList.flatMap quoteChar ++ ['"'])

/-- A text that may be absent, in quoted form. -/
def quoteOption : Option String → String
  | none => "None"
  | some text => "Some(" ++ quote text ++ ")"

end Hotplug.Text
