import Hotplug.Datum.Basic
import Hotplug.Text.Number
import Hotplug.Toml.Scan
/-!
# Numbers and dates in configuration documents

Whole numbers have 64 bits and a sign. They are written in base ten without leading zeros, or with a
mark in base sixteen, eight or two. Other numbers have a fraction or an exponent; they may not be too
large. Single underscores may stand between digits. Dates and times have fixed widths and ranges.

## Main definitions

* `Hotplug.Toml.whole`, `Hotplug.Toml.fraction`, `Hotplug.Toml.dateOrTime`
* `Hotplug.Toml.number`: any of them.
-/

namespace Hotplug.Toml

/-- Whether a character is a digit of a base. -/
def isDigitOf (base : Nat) (c : Char) : Bool :=
  (Number.digit? c).any (· < base)

/-- Digits of a base with single underscores in between, onto those found so far, last first. -/
def digitsOnto (base : Nat) (found : List Char) : List Char → List Char × List Char
  | '_' :: c :: rest =>
    if isDigitOf base c then digitsOnto base (c :: found) rest
    else (found.reverse, '_' :: c :: rest)
  | c :: rest =>
    if isDigitOf base c then digitsOnto base (c :: found) rest else (found.reverse, c :: rest)
  | [] => (found.reverse, [])

/-- Digits of a base, at least one, with single underscores in between. -/
def digits (base : Nat) : Scan (List Char)
  | c :: rest => if isDigitOf base c then some (digitsOnto base [c] rest) else none
  | [] => none

/-- The value of digits of a base. -/
def valueOf (base : Nat) (digits : List Char) : Nat :=
  (Number.readDigits? base 0 digits).getD 0

/-- A sign that may be left out; whether it is a minus. -/
def sign : List Char → Bool × List Char
  | '-' :: rest => (true, rest)
  | '+' :: rest => (false, rest)
  | text => (false, text)

/-- A whole number in base ten without leading zeros: whether it has a minus, and its digits. -/
def decimal : Scan (Bool × List Char) := fun text =>
  match sign text with
  | (negative, '0' :: rest) => some ((negative, ['0']), rest)
  | (negative, unsigned) =>
    (digits 10 unsigned).map fun (digits, rest) => ((negative, digits), rest)

/-- The largest whole number. -/
def largestWhole : Nat := 0x7FFFFFFFFFFFFFFF

/-- A whole number within range. With more than sixty-four digits behind its leading zeros it is out of
range in every base, and is refused unread. -/
def inRange (negative : Bool) (base : Nat) (digits : List Char) : Option Int :=
  let significant := digits.dropWhile (· = '0')
  if 64 < significant.length then none
  else
    let value := valueOf base significant
    if negative then if value ≤ largestWhole + 1 then some (-value) else none
    else if value ≤ largestWhole then some value else none

/-- A whole number in a base other than ten, behind its mark. -/
def marked (base : Nat) : Scan Int := fun text => do
  let (digits, rest) ← digits base text
  return (← inRange false base digits, rest)

/-- A whole number. -/
def whole : Scan Int
  | '0' :: 'x' :: rest => marked 16 rest
  | '0' :: 'o' :: rest => marked 8 rest
  | '0' :: 'b' :: rest => marked 2 rest
  | text => do
    let ((negative, digits), rest) ← decimal text
    return (← inRange negative 10 digits, rest)

/-- The digits behind a point. -/
def fractionDigits : Scan (List Char) := fun text => do
  digits 10 (← exactly '.' text)

/-- The value of the digits of an exponent. Digits behind those that make it at least 65536 are left
unread, so that it stays small. -/
def exponentOf (digits : List Char) : Nat :=
  digits.foldl (fun value c => if value < 65536 then valueOf 10 [c] + 10 * value else value) 0

/-- An exponent of ten. -/
def exponent : Scan Int
  | c :: rest =>
    if c = 'e' || c = 'E' then do
      let (negative, unsigned) := sign rest
      let (digits, rest) ← digits 10 unsigned
      return (if negative then -(exponentOf digits : Int) else exponentOf digits, rest)
    else none
  | [] => none

/-- From here on a number is too large for a binary one of 64 bits: half a step above the largest. -/
def firstTooLarge : Nat := Nat.pow 2 1024 - Nat.pow 2 970

/-- Whether digits with an exponent of ten make a number that is too large. The number of digits before
the point decides unless it is close; then those digits do, since `firstTooLarge` is whole. -/
def isTooLarge (digits : List Char) (exponent : Int) : Bool :=
  let significant := digits.dropWhile (· = '0')
  let size := significant.length + exponent
  if significant.isEmpty then false
  else if 310 < size then true
  else if size < 308 then false
  else
    firstTooLarge ≤
      valueOf 10 (significant.take size.toNat) * Nat.pow 10 (size.toNat - significant.length)

/-- A number with a fraction or an exponent that is not too large. -/
def finiteFraction : Scan Unit := fun text => do
  let ((negative, before), rest) ← decimal text
  let (behind, power, rest) ← match fractionDigits rest with
    | some (behind, rest) =>
      match exponent rest with
      | some (power, rest) => some (behind, power, rest)
      | none => some (behind, 0, rest)
    | none => (exponent rest).map fun (power, rest) => ([], power, rest)
  if !negative && isTooLarge (before ++ behind) (power - behind.length) then none
  return ((), rest)

/-- Infinity, or what is no number. -/
def specialFraction : Scan Unit := fun text => do
  let unsigned := (sign text).2
  return ((), ← word "inf".toList unsigned <|> word "nan".toList unsigned)

/-- A number that is not a whole one. -/
def fraction : Scan Unit := fun text =>
  finiteFraction text <|> specialFraction text

/-! ### Dates and times -/

/-- A number of so many digits, from `low` up to `high`. -/
def fixed (size low high : Nat) : Scan Nat := fun text => do
  let digits := text.take size
  if digits.length ≠ size || !digits.all (isDigitOf 10) then none
  let value := valueOf 10 digits
  if value < low || high < value then none
  return (value, text.drop size)

/-- Whether a year has a leap day. -/
def isLeapYear (year : Nat) : Bool :=
  year % 4 = 0 && (year % 100 ≠ 0 || year % 400 = 0)

/-- How many days a month has. -/
def daysIn (year month : Nat) : Nat :=
  if month = 2 then if isLeapYear year then 29 else 28
  else if month = 4 || month = 6 || month = 9 || month = 11 then 30
  else 31

/-- A date. -/
def date : Scan Unit := fun text => do
  let (year, rest) ← fixed 4 0 9999 text
  let (month, rest) ← fixed 2 1 12 (← exactly '-' rest)
  let (_, rest) ← fixed 2 1 (daysIn year month) (← exactly '-' rest)
  return ((), rest)

/-- A time of day. The sixtieth second is for leap seconds. -/
def time : Scan Unit := fun text => do
  let (_, rest) ← fixed 2 0 23 text
  let (_, rest) ← fixed 2 0 59 (← exactly ':' rest)
  let (_, rest) ← fixed 2 0 60 (← exactly ':' rest)
  match rest with
  | '.' :: c :: more =>
    if isDigitOf 10 c then return ((), more.dropWhile (isDigitOf 10)) else return ((), rest)
  | _ => return ((), rest)

/-- The distance of a local time from universal time. -/
def offset : Scan Unit
  | 'Z' :: rest | 'z' :: rest => some ((), rest)
  | c :: rest =>
    if c = '+' || c = '-' then do
      let (_, rest) ← fixed 2 0 23 rest
      let (_, rest) ← fixed 2 0 59 (← exactly ':' rest)
      return ((), rest)
    else none
  | [] => none

/-- A time of day behind a date, with its distance from universal time if that is given. -/
def timeOfDate : Scan Unit
  | c :: rest =>
    if c = 'T' || c = 't' || c = ' ' then do
      let (_, rest) ← time rest
      return ((), ((offset rest).map (·.2)).getD rest)
    else none
  | [] => none

/-- A date, a time, or both. -/
def dateOrTime : Scan Unit := fun text =>
  match date text with
  | some (_, rest) => some ((), ((timeOfDate rest).map (·.2)).getD rest)
  | none => time text

/-- A number, a date or a time. -/
def number : Scan Datum := fun text =>
  (dateOrTime text).map (fun (_, rest) => (Datum.date, rest)) <|>
  (fraction text).map (fun (_, rest) => (Datum.fraction, rest)) <|>
  (whole text).map (fun (value, rest) => (Datum.whole value, rest))

end Hotplug.Toml
