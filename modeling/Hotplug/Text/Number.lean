/-!
# Numbers as text

Digits in a base from two to sixteen, written and read. Reading is strict: every character has to be
a digit, one leading `+` apart, and the value has to stay within a bound.

## Main definitions

* `Hotplug.Number.hex`: lowercase hexadecimal, padded with zeros on the left to a width.
* `Hotplug.Number.read?`: an unsigned number of a base, within a bound.
-/

namespace Hotplug.Number

/-- The value of a digit of any base up to sixteen; letters of either case count. -/
def digit? (c : Char) : Option Nat :=
  if '0' ≤ c ∧ c ≤ '9' then some (c.toNat - '0'.toNat)
  else if 'a' ≤ c ∧ c ≤ 'f' then some (c.toNat - 'a'.toNat + 10)
  else if 'A' ≤ c ∧ c ≤ 'F' then some (c.toNat - 'A'.toNat + 10)
  else none

/-- Reads digits of a base onto the value read so far. -/
def readDigits? (base : Nat) : Nat → List Char → Option Nat
  | value, [] => some value
  | value, c :: rest =>
    match digit? c with
    | some d => if d < base then readDigits? base (value * base + d) rest else none
    | none => none

/-- Reads an unsigned number below `bound`. One leading `+` is allowed; at least one digit has to
follow, and nothing else. -/
def read? (base bound : Nat) (text : List Char) : Option Nat :=
  let digits := match text with
    | '+' :: rest => rest
    | other => other
  if digits.isEmpty then none
  else (readDigits? base 0 digits).filter (· < bound)

/-- Lowercase hexadecimal digits, at least `width` of them. -/
def hex (value : Nat) (width : Nat := 1) : String :=
  let digits := Nat.toDigits 16 value
  String.ofList (List.replicate (width - digits.length) '0' ++ digits)

/-- Hexadecimal with the `0x` mark in front. -/
def hexMarked (value : Nat) (width : Nat := 1) : String :=
  "0x" ++ hex value width

end Hotplug.Number
