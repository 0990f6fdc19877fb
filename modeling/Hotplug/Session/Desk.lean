import Hotplug.Backend.Beside
import Hotplug.Backend.Faults
import Hotplug.Backend.Script
import Hotplug.Backend.Unsupported
import Hotplug.Hub.Transfer
import Hotplug.Session.Answer
import Hotplug.Wait.DescriptorSet
/-!
# Desks

A hub whose devices, monitors and handles lie in named slots, so that commands can speak of them. What
lies in a device slot is a reference to a record. A slot that is filled again lets go of what it held,
after the new holding is in place.

## Main definitions

* `Hotplug.Bench`: the backends of a desk.
* `Hotplug.Desk`: a hub with slots.
* `Hotplug.Desk.fillDevice`, `Hotplug.Desk.fillMonitor`, `Hotplug.Desk.fillHandle`
* `Hotplug.Desk.view`: a record as it is shown.
* `Hotplug.Desk.label`: whose object a waitable is.
-/

namespace Hotplug

/-- The backends of a desk: devices in memory, a script, and one that supports nothing. -/
abbrev Bench := Beside Memory (Beside BackendScript Unsupported)

/-- The names of the backends of a desk. -/
inductive Bench.Choice
  | memory | script | unsupported
  deriving DecidableEq, Repr

/-- The backend of a name. -/
def Bench.Choice.origin : Bench.Choice → Platform.Origin Bench
  | memory => .inl ()
  | script => .inr (.inl ())
  | unsupported => .inr (.inr ())

/-- A hub whose devices, monitors and handles lie in named slots, with sets of descriptors. -/
structure Desk where
  hub : Hub Bench := { platform := ⟨{}, {}, {}⟩ }
  /-- The device slots. -/
  devices : Table String RecordId := {}
  /-- The monitor slots. -/
  monitors : Table String MonitorId := {}
  /-- The handle slots. -/
  handles : Table String HandleId := {}
  /-- The sets of descriptors. -/
  sets : Table String DescriptorSet := {}

namespace Desk

/-- Runs an action of the hub. -/
def onHub (action : Action (Hub Bench) α) : Action Desk α :=
  action.on Desk.hub fun hub desk => { desk with hub }

/-- Changes the devices in memory. -/
def onMemory (f : Memory → Memory) : Action Desk Unit :=
  Action.modify fun desk =>
    { desk with hub := { desk.hub with platform := desk.hub.platform.mapFirst f } }

/-- The devices in memory. -/
def memory (desk : Desk) : Memory :=
  desk.hub.platform.first

/-- Waiting for the objects of the platform. -/
def native : NativeWait Desk :=
  (Platform.native.on Hub.platform fun platform hub => { hub with platform }).on
    Desk.hub fun hub desk => { desk with hub }

/-! ### Slots -/

/-- Goes on with what lies in a slot. -/
def withSlot (slots : Desk → Table String ι) (slot : String) (next : ι → Action Desk Answer) :
    Action Desk Answer := do
  match (slots (← Action.get)).get? slot with
  | some held => next held
  | none => return .emptySlot slot

/-- Takes one more reference to a record. -/
def retain (id : RecordId) : Action Desk Unit :=
  onHub (Hub.modifyRecords (·.retain id))

/-- Gives a reference to a record back. -/
def release (id : RecordId) : Action Desk Unit :=
  onHub (Hub.modifyRecords (·.release id))

/-- Lays a device into a slot, with a new reference. -/
def fillDevice (slot : String) (id : RecordId) : Action Desk Unit := do
  let old := (← Action.get).devices.get? slot
  retain id
  Action.modify fun desk => { desk with devices := desk.devices.insert slot id }
  old.forM release

/-- Lays a monitor into a slot. -/
def fillMonitor (slot : String) (id : MonitorId) : Action Desk Unit := do
  let old := (← Action.get).monitors.get? slot
  Action.modify fun desk => { desk with monitors := desk.monitors.insert slot id }
  old.forM fun old => onHub (Hub.unwatch old)

/-- Lays a handle into a slot. -/
def fillHandle (slot : String) (id : HandleId) : Action Desk Unit := do
  let old := (← Action.get).handles.get? slot
  Action.modify fun desk => { desk with handles := desk.handles.insert slot id }
  old.forM fun old => onHub (Hub.close old)

/-- Lays a set into a slot. -/
def fillSet (slot : String) (set : DescriptorSet) : Action Desk Unit :=
  Action.modify fun desk => { desk with sets := desk.sets.insert slot set }

/-- Lays devices into slots whose names are a stem and a number from zero on. -/
def bindFrom (stem : String) : Nat → List RecordId → Action Desk Unit
  | _, [] => return ()
  | place, id :: rest => do
    fillDevice (stem ++ toString place) id
    bindFrom stem (place + 1) rest

/-- Lays devices into numbered slots, if a stem is given. -/
def bindAll (stem : Option String) (ids : List RecordId) : Action Desk Unit :=
  stem.forM fun stem => bindFrom stem 0 ids

/-! ### What is shown -/

/-- A record as it is shown. -/
def view (id : RecordId) : Action Desk DeviceView :=
  onHub (Hub.view id)

/-- What a monitor waits for. -/
def monitorTarget (desk : Desk) (id : MonitorId) : Option Waitable :=
  (desk.hub.monitors.get? id).map fun monitor => Platform.sourceTarget monitor.source

/-- What a handle waits for. -/
def handleTarget (desk : Desk) (id : HandleId) : Option Waitable :=
  (desk.hub.handles.get? id).map fun handle => Platform.channelTarget handle.channel

/-- The first number that no descriptor of the platform has. -/
def foreignDescriptors : Int := 1000

/-- Whose object a waitable is: a descriptor of the platform is named after the slot of its monitor or
handle, and is closed if there is none. Everything else is named by itself. -/
def label (desk : Desk) (target : Waitable) : String :=
  match target with
  | .handle _ => target.text
  | .fd number =>
    if foreignDescriptors ≤ number then target.text
    else
      let monitor := desk.monitors.entries.find? fun (_, id) => desk.monitorTarget id == some target
      let handle := desk.handles.entries.find? fun (_, id) => desk.handleTarget id == some target
      match monitor, handle with
      | some (slot, _), _ => "m:" ++ slot
      | none, some (slot, _) => "h:" ++ slot
      | none, none => "closed"

end Desk

end Hotplug
