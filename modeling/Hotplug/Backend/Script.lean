import Hotplug.Platform
/-!
# A backend that follows a script

The devices and every delivery of announcements are given beforehand. Nothing is filtered. Sources
and channels are kernel handles, so nobody can wait for them with descriptors. A channel has no input
and takes all output.

## Main definitions

* `Hotplug.Delivery`, `Hotplug.BackendScript`
* The platform of a script.
-/

namespace Hotplug

/-- What one delivery gives: notices, and the failure that cuts it short, if one does. -/
structure Delivery where
  notices : List Notice := []
  failure : Option Failure := none
  deriving DecidableEq, Repr

/-- A backend whose answers are given beforehand. -/
structure BackendScript where
  devices : List Info := []
  /-- The deliveries left, next one first. -/
  deliveries : List Delivery := []
  deriving DecidableEq, Repr

namespace BackendScript

/-- The handle of every source. -/
def sourceHandle : Nat := 0x10

/-- The handle of every channel. -/
def channelHandle : Nat := 0x20

/-- Gives the next delivery. -/
def deliver : Action BackendScript Drained := do
  match ← Action.modifyGet fun s => (s.deliveries.head?, { s with deliveries := s.deliveries.drop 1 }) with
  | none => return {}
  | some delivery =>
    match delivery.failure with
    | none => return { notices := delivery.notices }
    | some failure =>
      Action.say (.failure failure)
      return { notices := delivery.notices, failure }

/-- Waiting fails: there are no descriptors. -/
def native : NativeWait BackendScript where
  limit := none
  now := fun s => (0, s)
  sleep := fun _ s => s
  call := fun objects _ => do
    let _ ← Action.require (Waitable.descriptors objects)
    return .timedOut
  patience := fun _ _ => 1
  output := fun _ _ => return .ready [0]

instance : Platform BackendScript where
  Origin := Unit
  Source := Unit
  Channel := Unit
  name := fun _ => "script"
  enumerate := fun _ _ => Action.gets BackendScript.devices
  subscribe := fun _ _ => return ()
  unsubscribe := fun _ s => s
  drain := fun _ => deliver
  sourceTarget := fun _ => .handle sourceHandle
  openChannel := fun _ _ => return ()
  closeChannel := fun _ s => s
  channelTarget := fun _ => .handle channelHandle
  read := fun _ _ _ => return []
  write := fun _ data => return data.length
  configure := fun _ _ => Action.fail Lacking.serialSettings.failure
  reportDescriptor := fun _ => Action.fail Lacking.reportDescriptor.failure
  sendFeature := fun _ _ => Action.fail Lacking.featureReports.failure
  getFeature := fun _ _ _ => Action.fail Lacking.featureReports.failure
  native := native

end BackendScript

end Hotplug
