import Hotplug.Hub.View
import Hotplug.Rig.Timing
/-!
# Rigs

A hub with one monitor and one set of descriptors, wired the way an event loop is: the object of the
monitor is in the set under a number of its own, and handles are added next to it.

## Main definitions

* `Hotplug.Rig`, `Hotplug.Rig.wire`
* `Hotplug.Rig.nextEvents`: waits until the monitor has something to tell.
* `Hotplug.Rig.openRegistered`: opens a device and adds its handle to the set.
-/

namespace Hotplug

/-- A hub with one monitor whose object is in a set of descriptors. -/
structure Rig (σ : Type) [Platform σ] where
  hub : Hub σ
  monitor : MonitorId
  set : DescriptorSet
  /-- The number of the monitor's object in the set. -/
  monitorEntry : UInt32

namespace Rig

variable {σ : Type} [Platform σ]

/-- The number of the monitor's object unless told otherwise. -/
def standardEntry : UInt32 := 2

/-- Runs an action of the hub. -/
def onHub (action : Action (Hub σ) α) : Action (Rig σ) α :=
  action.on Rig.hub fun hub rig => { rig with hub }

/-- Waiting for the objects of the platform. -/
def native : NativeWait (Rig σ) :=
  (Platform.native.on Hub.platform fun platform hub => { hub with platform }).on
    Rig.hub fun hub rig => { rig with hub }

/-- Starts a monitor and adds its object to a set. A monitor that cannot be added is ended again. -/
def wire (origin : Platform.Origin σ) (filter : Filter) (set : DescriptorSet) (entry : UInt32) :
    Action (Hub σ) (MonitorId × DescriptorSet) := do
  let id ← Hub.watch origin filter
  let monitor ← Hub.monitor id
  match set.add entry (Platform.sourceTarget monitor.source) with
  | .ok set => return (id, set)
  | .error refusal =>
    Action.say (.failure refusal.failure)
    Hub.unwatch id
    Action.failAgain refusal.failure

/-- Polls the set. -/
def poll (limit : Int) : Action (Rig σ) (List UInt32) := do
  (← Action.get).set.pollWith native.toPrimitive limit

/-- Polls the set and takes the time. -/
def measure (limit : Int) : Action (Rig σ) PollTiming := do
  PollTiming.measure native.toPrimitive (← Action.get).set limit

/-- Polls the set with at most so many objects in one call, and takes the time. -/
def measureWithin (limit : Int) (most : Nat) : Action (Rig σ) PollTiming := do
  (PollTiming.measure (native.toPrimitive.limited most) (← Action.get).set limit).alongside 0
    fun timing _ => timing

/-- Applies pending announcements. -/
def refresh : Action (Rig σ) (List Change) := do
  onHub (Hub.refresh (← Action.get).monitor)

/-- The clock in whole milliseconds. -/
def millis : Action (Rig σ) UInt64 := do
  return .ofNat ((← Action.modifyGet native.now) / Deadline.perMilli)

/-- Rounds of polling until the monitor has something to tell, at most so many. A round in which only
others are ready is followed by another.

The millisecond that passes before the next round and the bound on the rounds are not part of the loop
itself. A round takes time, but the clock here moves only when it is told to; the millisecond stands for
that time, and changes nothing but the clock. The bound makes the recursion end. It is only reached where
the loop would go on for good: a limit has run out before, as every round takes a millisecond of it, and
without a limit whoever was ready in two rounds stays ready, since nobody acts in between. -/
def rounds (limit : Int32) (start : UInt64) : Nat → Action (Rig σ) (Except RigFailure (List Change))
  | 0 => Action.wait
  | more + 1 => do
    let remaining := remainingSince limit start (← millis)
    let ready ← poll remaining.toInt
    if ready.contains (← Action.get).monitorEntry then return .ok (← refresh)
    else if remaining = 0 ∨ (ready = [] ∧ 0 ≤ limit) then
      return .error (.timeout (Duration.ofMillis limit.toInt.toNat))
    else
      Action.modify (native.sleep 1)
      rounds limit start more

/-- Waits until the monitor has something to tell, and applies it. Beyond the milliseconds of the limit
there is one round to begin with and one to find that time is up. -/
def nextEvents (limit : Int32) : Action (Rig σ) (Except RigFailure (List Change)) := do
  rounds limit (← millis) (limit.toInt.toNat + 2)

/-- What is said when the handle of a device cannot be added to the set. -/
def registrationMessage (summary : String) (id : UInt32) (failure : Failure) : String :=
  "cannot register " ++ summary ++ " as " ++ toString id ++ ": " ++ failure.message

/-- Opens the device of a record and adds the handle to the set. A handle that cannot be added is
closed again. -/
def openRegistered (record : RecordId) (id : UInt32) :
    Action (Rig σ) (Except RigFailure HandleId) := do
  let handle ← onHub (Hub.open_ record)
  let target := Platform.channelTarget (← onHub (Hub.handle handle)).channel
  match (← Action.get).set.add id target with
  | .ok set =>
    Action.modify fun rig => { rig with set }
    return .ok handle
  | .error refusal =>
    Action.say (.failure refusal.failure)
    let summary := (← Action.get).hub.summary record
    onHub (Hub.close handle)
    return .error (.setup (registrationMessage summary id refusal.failure))

/-- Takes the entry with a number out of the set. -/
def remove (id : UInt32) : Action (Rig σ) Bool :=
  Action.modifyGet fun rig =>
    let (removed, set) := rig.set.remove id
    (removed, { rig with set })

/-- The records of the monitor. -/
def devices : Action (Rig σ) (List RecordId) := do
  return (← onHub (Hub.monitor (← Action.get).monitor)).registry.records

end Rig

end Hotplug
