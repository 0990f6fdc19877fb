/-!
# Numbers of new descriptors

A new descriptor takes the lowest free number.

## Main definitions

* `Hotplug.newDescriptor`
-/

namespace Hotplug

/-- The lowest number from `start` on that is not taken, looking at no more than `tries`. -/
def lowestFree (taken : List Nat) (start : Nat) : Nat → Nat
  | 0 => start
  | tries + 1 => if taken.contains start then lowestFree taken (start + 1) tries else start

/-- The number of a new descriptor: the lowest free one. The first three are always taken. -/
def newDescriptor (taken : List Nat) : Nat :=
  lowestFree taken 3 taken.length

end Hotplug
