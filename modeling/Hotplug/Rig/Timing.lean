import Hotplug.Rig.Failure
import Hotplug.Wait.DescriptorSet
/-!
# How long polls take

A poll with its limit, the time it took and what it found ready. A poll that ran into its limit takes
at least the limit, and little more.

## Main definitions

* `Hotplug.PollTiming`, `Hotplug.PollTiming.measure`
* `Hotplug.PollTiming.check`: whether the time is right.
-/

namespace Hotplug

/-- A poll and how long it took. -/
structure PollTiming where
  /-- The limit, in milliseconds. -/
  limit : Int
  /-- The time it took, in nanoseconds. -/
  elapsed : Nat
  /-- What was ready. -/
  ready : List UInt32
  deriving DecidableEq, Repr

namespace PollTiming

/-- Polls a set and takes the time on the clock of the primitive. -/
def measure (p : Primitive σ) (set : DescriptorSet) (limit : Int) : Action σ PollTiming := do
  let start ← Action.modifyGet p.now
  let ready ← set.pollWith p limit
  let finish ← Action.modifyGet p.now
  return { limit, elapsed := finish - start, ready }

/-- What is wrong with a poll that should have run into its limit. -/
inductive Violation
  /-- Something was ready. -/
  | ready (ids : List UInt32)
  /-- It returned before its limit. -/
  | early (limit : Int) (elapsed : Nat)
  /-- It returned too late. -/
  | late (limit : Int) (elapsed ceiling : Nat)
  deriving DecidableEq, Repr

/-- What to tell people. -/
def Violation.message : Violation → String
  | ready ids =>
    "expected timeout, got ready ids [" ++ String.intercalate ", " (ids.map toString) ++ "]"
  | early limit elapsed =>
    "poll(" ++ toString limit ++ ") returned early after " ++ Duration.text elapsed
  | late limit elapsed ceiling =>
    "poll(" ++ toString limit ++ ") overran to " ++ Duration.text elapsed ++ " (ceiling " ++
      Duration.text ceiling ++ ")"

/-- Checks a poll that should have run into its limit. -/
def check (timing : PollTiming) : Except Violation Unit :=
  let limit := Duration.ofMillis timing.limit.toNat
  let ceiling := limit + Duration.ofMillis pollTolerance
  if !timing.ready.isEmpty then .error (.ready timing.ready)
  else if timing.elapsed < limit then .error (.early timing.limit timing.elapsed)
  else if ceiling < timing.elapsed then .error (.late timing.limit timing.elapsed ceiling)
  else .ok ()

end PollTiming

end Hotplug
