import Hotplug.Session.Desk
/-!
# Commands on sets of descriptors

Making and changing sets, and waiting.

## Main definitions

* `Hotplug.WaitTarget`, `Hotplug.Desk.withTarget`
* `Hotplug.SetCommand`, `Hotplug.SetCommand.run`
-/

namespace Hotplug

/-- What a command names as an object to wait for. -/
inductive WaitTarget
  /-- A descriptor by its number. -/
  | fd (number : Int)
  /-- A kernel handle by its number. -/
  | handle (number : Nat)
  /-- The monitor in a slot. -/
  | monitor (slot : String)
  /-- The handle in a slot. -/
  | open_ (slot : String)
  deriving DecidableEq, Repr

/-- Goes on with the object that a command names. -/
def Desk.withTarget (target : WaitTarget) (next : Waitable → Action Desk Answer) :
    Action Desk Answer :=
  match target with
  | .fd number => next (.fd number)
  | .handle number => next (.handle number)
  | .monitor slot =>
    Desk.withSlot Desk.monitors slot fun id => do
      next (Platform.sourceTarget (← Desk.onHub (Hub.monitor id)).source)
  | .open_ slot =>
    Desk.withSlot Desk.handles slot fun id => do
      next (Platform.channelTarget (← Desk.onHub (Hub.handle id)).channel)

/-- A command on sets of descriptors. -/
inductive SetCommand
  /-- Make an empty set. -/
  | make (slot : String) (capacity : Nat) (slice : Int)
  /-- Add an object. -/
  | add (slot : String) (id : UInt32) (target : WaitTarget)
  /-- Add so many descriptors under consecutive numbers. -/
  | addMany (slot : String) (id : UInt32) (count : Nat)
  /-- Take an entry out. -/
  | remove (slot : String) (id : UInt32)
  /-- Take every entry out. -/
  | clear (slot : String)
  /-- Look an entry up. -/
  | get (slot : String) (id : UInt32)
  /-- List the entries. -/
  | entries (slot : String)
  /-- Copy a set. -/
  | copy (slot into : String)
  /-- Wait for the entries. -/
  | poll (slot : String) (limit : Int)
  /-- Wait for the entries, with at most so many objects in one call. -/
  | pollWithin (slot : String) (limit : Int) (most : Nat)
  /-- Wait for input. -/
  | readable (target : WaitTarget) (limit : Int)
  /-- Wait for room for output. -/
  | writable (target : WaitTarget) (limit : Int)
  deriving DecidableEq, Repr

namespace SetCommand

/-- The first of the descriptors that are added together. -/
def firstOfMany : Nat := 5000

/-- Adds an object to the set in a slot. -/
def addTo (slot : String) (set : DescriptorSet) (id : UInt32) (target : Waitable) :
    Action Desk DescriptorSet := do
  let set ← Action.require ((set.add id target).mapError (·.failure))
  Desk.fillSet slot set
  return set

/-- Adds so many descriptors under consecutive numbers, until one is refused. `place` counts them. -/
def addFrom (slot : String) (set : DescriptorSet) (id : UInt32) (place : Nat) :
    Nat → Action Desk Nat
  | 0 => return set.size
  | more + 1 => do
    let set ← addTo slot set id (.fd (firstOfMany + place))
    addFrom slot set (id + 1) (place + 1) more

/-- Waits for the entries of a set. The entries that are ready, and the most objects in one call. -/
def pollNoting (set : DescriptorSet) (limit : Int) (most : Nat) : Action Desk (List UInt32 × Nat) :=
  (set.pollWith (Desk.native.toPrimitive.limited most) limit).alongside 0 Prod.mk

/-- Runs a command. -/
def run : SetCommand → Action Desk Answer
  | make slot capacity slice => do
    Desk.fillSet slot { capacity, slice }
    return .madeSet capacity true
  | add slot id target =>
    Desk.withTarget target fun object => Desk.withSlot Desk.sets slot fun set => do
      return .count (← addTo slot set id object).size
  | addMany slot id count =>
    Desk.withSlot Desk.sets slot fun set => do return .count (← addFrom slot set id 0 count)
  | remove slot id =>
    Desk.withSlot Desk.sets slot fun set => do
      let (removed, set) := set.remove id
      Desk.fillSet slot set
      return .flag removed
  | clear slot =>
    Desk.withSlot Desk.sets slot fun set => do
      Desk.fillSet slot set.clear
      return .nothing
  | get slot id =>
    Desk.withSlot Desk.sets slot fun set => do
      let desk ← Action.get
      return .entry (set.contains id) ((set.get? id).map desk.label)
  | entries slot =>
    Desk.withSlot Desk.sets slot fun set => do
      let desk ← Action.get
      return .entries set.capacity (set.entries.map fun entry => (entry.id, desk.label entry.target))
  | copy slot into =>
    Desk.withSlot Desk.sets slot fun set => do
      Desk.fillSet into set
      return .nothing
  | poll slot limit =>
    Desk.withSlot Desk.sets slot fun set => do
      return .ready (← set.pollWith Desk.native.toPrimitive limit)
  | pollWithin slot limit most =>
    Desk.withSlot Desk.sets slot fun set => do
      let (ids, largest) ← pollNoting set limit most
      return .readyWithin ids largest
  | readable target limit =>
    Desk.withTarget target fun object => do return .flag (← Desk.native.readable object limit)
  | writable target limit =>
    Desk.withTarget target fun object => do return .flag (← Desk.native.writable object limit)

end SetCommand

end Hotplug
