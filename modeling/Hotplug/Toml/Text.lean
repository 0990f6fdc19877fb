import Hotplug.Text.Number
import Hotplug.Toml.Scan
/-!
# Texts in configuration documents

A text stands between quotes. Double quotes allow escapes, single quotes take every character as it
is; tripled quotes of either kind allow several lines.

## Main definitions

* `Hotplug.Toml.quoted`: a text on one line.
* `Hotplug.Toml.text`: any text.
-/

namespace Hotplug.Toml

/-- The character of a number, which has to be one. -/
def ofScalar? (number : Nat) : Option Char :=
  if number.isValidChar then some (Char.ofNat number) else none

/-- A character given by so many hexadecimal digits. -/
def scalar (size : Nat) : Scan Char := fun text => do
  let digits := text.take size
  if digits.length ≠ size then none
  return (← ofScalar? (← Number.readDigits? 16 0 digits), text.drop size)

/-- What stands behind a backslash. -/
def escape : Scan Char
  | 'b' :: rest => some ('\x08', rest)
  | 't' :: rest => some ('\t', rest)
  | 'n' :: rest => some ('\n', rest)
  | 'f' :: rest => some ('\x0c', rest)
  | 'r' :: rest => some ('\r', rest)
  | '"' :: rest => some ('"', rest)
  | '\\' :: rest => some ('\\', rest)
  | 'u' :: rest => scalar 4 rest
  | 'U' :: rest => scalar 8 rest
  | _ => none

/-- One character between double quotes. -/
def escaped : Scan Char
  | '"' :: _ => none
  | '\\' :: rest => escape rest
  | c :: rest => if isPlain c then some (c, rest) else none
  | [] => none

/-- A text on one line, in quotes of either kind. -/
def quoted : Scan String
  | '"' :: rest => do
    let (cs, rest) := many escaped rest
    return (String.ofList cs, ← exactly '"' rest)
  | '\'' :: rest => do
    let (cs, rest) := rest.span fun c => isPlain c && c ≠ '\''
    return (String.ofList cs, ← exactly '\'' rest)
  | _ => none

/-- One blank or end of a line. -/
def blankOrNewline : Scan Unit
  | ' ' :: rest | '\t' :: rest => some ((), rest)
  | text => (newline? text).map fun rest => ((), rest)

/-- A backslash at the end of a line joins it with what follows, whatever the blanks and ends of lines
in between. -/
def joinedLine : Scan (List Char) := fun text => do
  let rest ← newline? (skipBlanks (← exactly '\\' text))
  return ([], (many blankOrNewline rest).2)

/-- One piece between tripled quotes: an end of a line, a quote that does not end the text, or a
character that `single` takes. -/
def piece (quote : Char) (single : Scan (List Char)) : Scan (List Char) := fun text =>
  match newline? text with
  | some rest => some (['\n'], rest)
  | none =>
    match text with
    | c :: rest =>
      if c = quote then
        if [quote, quote].isPrefixOf rest then none else some ([quote], rest)
      else single text
    | [] => none

/-- One character as it is. -/
def plain : Scan (List Char)
  | c :: rest => if isPlain c then some ([c], rest) else none
  | [] => none

/-- One character, a backslash with what it stands for, or a joined line. -/
def joinedOrEscaped : Scan (List Char) := fun text =>
  joinedLine text <|> (escaped text).map fun (c, rest) => ([c], rest)

/-- The end of a text in tripled quotes. One or two quotes before the last three belong to the text. -/
def tripleEnd (quote : Char) : Scan (List Char) := fun text =>
  let run := (text.takeWhile (· = quote)).length
  if run < 3 then none
  else
    let own := min (run - 3) 2
    some (List.replicate own quote, text.drop (own + 3))

/-- A text in tripled quotes, behind the first three. An end of a line right there does not count. -/
def tripled (quote : Char) (single : Scan (List Char)) : Scan String := fun text => do
  let (pieces, rest) := many (piece quote single) ((newline? text).getD text)
  let (own, rest) ← tripleEnd quote rest
  return (String.ofList (pieces.flatten ++ own), rest)

/-- A text in quotes of any kind. -/
def text : Scan String
  | '"' :: '"' :: '"' :: rest => tripled '"' joinedOrEscaped rest
  | '\'' :: '\'' :: '\'' :: rest => tripled '\'' plain rest
  | other => quoted other

end Hotplug.Toml
