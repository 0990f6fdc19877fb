import Hotplug.Text.Number
/-!
# Things that can be waited for

A thread waits for descriptors or for kernel handles. Whether a value can name a live object at all
shows in the value itself.

## Main definitions

* `Hotplug.Waitable`, `Hotplug.Waitable.isValid`, `Hotplug.Waitable.text`
* `Hotplug.Chunk`: consecutive objects of a list, with their place in it.
* `Hotplug.Readiness`: the answer of one wait.
-/

namespace Hotplug

/-- Something a thread can wait for. -/
inductive Waitable
  /-- A file descriptor. -/
  | fd (number : Int)
  /-- A kernel handle. -/
  | handle (number : Nat)
  deriving DecidableEq, Repr, Inhabited

namespace Waitable

/-- Whether the value can name a live object. -/
def isValid : Waitable → Bool
  | fd number => 0 ≤ number
  | handle number => number ≠ 0

/-- The value for people. -/
def text : Waitable → String
  | fd number => "fd " ++ toString number
  | handle number => "handle " ++ Number.hexMarked number

end Waitable

/-- Consecutive objects of a list, with the place of the first. -/
structure Chunk where
  /-- The place of the first object. -/
  start : Nat
  objects : List Waitable
  deriving DecidableEq, Repr

namespace Chunk

/-- All objects of a list. -/
def whole (objects : List Waitable) : Chunk :=
  ⟨0, objects⟩

/-- Places in a chunk as places in the whole list. -/
def places (chunk : Chunk) (within : List Nat) : List Nat :=
  within.map (chunk.start + ·)

end Chunk

/-- The answer of one wait on some objects. -/
inductive Readiness
  /-- These objects are ready, by their place among those that the wait was handed. -/
  | ready (places : List Nat)
  /-- Nothing became ready in time. -/
  | timedOut
  /-- A signal cut the wait short. -/
  | interrupted
  deriving DecidableEq, Repr

end Hotplug
