/-!
# Deadlines

Arithmetic of time limits. Limits are given in milliseconds; a negative limit never runs out. What
is left of a limit is rounded up to whole milliseconds, so that it is zero exactly when the limit
has run out, and it never exceeds the largest limit that can be asked for.

## Main definitions

* `Hotplug.remainingSince`: what is left of a limit, on a clock of milliseconds.
* `Hotplug.Deadline`, `Hotplug.Deadline.remaining`, `Hotplug.Deadline.isPast`: the same on a clock
  of nanoseconds.
-/

namespace Hotplug

/-- The largest limit that can be asked for, in milliseconds. -/
def longestLimit : Nat := 0x7FFFFFFF

/-- The last reading of a clock of milliseconds. -/
def lastReading : Nat := 0xFFFFFFFFFFFFFFFF

/-- What is left at `now` of a limit that began to run at `start`. -/
def remainingSince (limit : Int32) (start now : UInt64) : Int32 :=
  if limit < 0 then -1
  else
    let finish := min (start.toNat + limit.toInt.toNat) lastReading
    if finish ≤ now.toNat then 0
    else .ofNat (min (finish - now.toNat) longestLimit)

/-- When a limit runs out, in nanoseconds; `none` if it never does. -/
structure Deadline where
  moment : Option Nat
  deriving DecidableEq, Repr

namespace Deadline

/-- Nanoseconds in a millisecond. -/
def perMilli : Nat := 1000000

/-- The deadline of a limit that begins to run at `now`. -/
def ofLimit (limit : Int) (now : Nat) : Deadline :=
  ⟨if limit < 0 then none else some (now + limit.toNat * perMilli)⟩

/-- Whole milliseconds left at `now`, rounded up; -1 if the deadline never comes. -/
def remaining (deadline : Deadline) (now : Nat) : Int :=
  match deadline.moment with
  | none => -1
  | some moment => ((min ((moment - now + (perMilli - 1)) / perMilli) longestLimit : Nat) : Int)

/-- Whether the deadline has come. -/
def isPast (deadline : Deadline) (now : Nat) : Bool :=
  match deadline.moment with
  | none => false
  | some moment => moment ≤ now

/-- Whether the deadline comes at all. -/
def isFinite (deadline : Deadline) : Bool :=
  deadline.moment.isSome

end Deadline

end Hotplug
