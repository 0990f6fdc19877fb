/-!
# Bytes

Sequences of bytes, and the numbers that they stand for.

## Main definitions

* `Hotplug.Bytes`
* `Hotplug.littleEndian`, `Hotplug.bigEndian`, `Hotplug.wordBytes`
-/

namespace Hotplug

/-- A sequence of bytes. -/
abbrev Bytes := List UInt8

/-- The number that bytes stand for, least significant first. -/
def littleEndian : Bytes → Nat
  | [] => 0
  | b :: rest => b.toNat + 256 * littleEndian rest

/-- The number that bytes stand for, most significant first. -/
def bigEndian (bytes : Bytes) : Nat :=
  littleEndian bytes.reverse

/-- The four bytes of a number, least significant first. -/
def wordBytes (n : Nat) : Bytes :=
  [.ofNat n, .ofNat (n / 256), .ofNat (n / 0x10000), .ofNat (n / 0x1000000)]

end Hotplug
