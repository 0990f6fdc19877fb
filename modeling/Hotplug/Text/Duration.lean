/-!
# Spans of time as text

A span is written in the largest of seconds, milliseconds, microseconds and nanoseconds that is not
above it, with the fraction's trailing zeros left out.

## Main definitions

* `Hotplug.Duration.text`
-/

namespace Hotplug.Duration

/-- Decimal digits of a fraction with `places` places, without trailing zeros. -/
def fraction (places value : Nat) : List Char :=
  let digits := Nat.toDigits 10 value
  let padded := List.replicate (places - digits.length) '0' ++ digits
  ((padded.reverse).dropWhile (· == '0')).reverse

/-- Writes `value` units of which `10 ^ places` make one of the unit named. -/
def inUnit (places value : Nat) (unit : String) : String :=
  let whole := toString (value / Nat.pow 10 places)
  match fraction places (value % Nat.pow 10 places) with
  | [] => whole ++ unit
  | digits => whole ++ "." ++ String.ofList digits ++ unit

/-- The text of a span given in nanoseconds. -/
def text (nanoseconds : Nat) : String :=
  if 1000000000 ≤ nanoseconds then inUnit 9 nanoseconds "s"
  else if 1000000 ≤ nanoseconds then inUnit 6 nanoseconds "ms"
  else if 1000 ≤ nanoseconds then inUnit 3 nanoseconds "µs"
  else inUnit 0 nanoseconds "ns"

/-- The nanoseconds of a span of milliseconds. -/
def ofMillis (ms : Nat) : Nat :=
  ms * 1000000

end Hotplug.Duration
