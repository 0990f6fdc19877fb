import Hotplug.Session.Desk
/-!
# Commands on registries and records

Looking for devices, running monitors, and handling references to records. A result that is shown is a
reference as long as it is shown, and is let go of afterwards. What a monitor merely tells is none.

## Main definitions

* `Hotplug.RegistryCommand`, `Hotplug.RegistryCommand.run`
* `Hotplug.RecordCommand`, `Hotplug.RecordCommand.run`
-/

namespace Hotplug

/-- A command on registries. `bind` is the stem of slots for the devices of the result. -/
inductive RegistryCommand
  /-- Look for devices once. -/
  | enumerate (origin : Bench.Choice) (filter : Filter) (bind : Option String)
  /-- Start a monitor. -/
  | monitor (slot : String) (origin : Bench.Choice) (filter : Filter)
  /-- End a monitor. -/
  | dropMonitor (slot : String)
  /-- Apply pending announcements. -/
  | refresh (slot : String) (bind : Option String)
  /-- List the devices of a monitor. -/
  | devices (slot : String) (bind : Option String)
  /-- Look a device of a monitor up. -/
  | find (slot : String) (identity : Identity) (fill : Option String)
  /-- Tell about a monitor. -/
  | monitorInfo (slot : String)
  /-- Dump a monitor. -/
  | dumpMonitor (slot : String)
  deriving DecidableEq, Repr

namespace RegistryCommand

/-- The dump of a monitor. -/
def dump (id : MonitorId) (monitor : Monitor Bench) : String :=
  "Monitor \x7b id: MonitorId(" ++ toString id ++ "), backend: " ++
    Text.quote (Platform.name monitor.origin) ++ ", filter: " ++ monitor.filter.dump ++
    ", devices: " ++ toString monitor.registry.size ++ ", .. \x7d"

/-- Runs a command. -/
def run : RegistryCommand → Action Desk Answer
  | enumerate origin filter bind => do
    let ids ← Desk.onHub (Hub.enumerate origin.origin filter)
    let views ← ids.mapM Desk.view
    Desk.bindAll bind ids
    ids.forM Desk.release
    return .devices views
  | monitor slot origin filter => do
    let id ← Desk.onHub (Hub.watch origin.origin filter)
    let size := (← Desk.onHub (Hub.monitor id)).registry.size
    Desk.fillMonitor slot id
    return .started id size (monitorName id)
  | dropMonitor slot => do
    match (← Action.get).monitors.get? slot with
    | none => return .flag false
    | some id =>
      Action.modify fun desk => { desk with monitors := desk.monitors.erase slot }
      Desk.onHub (Hub.unwatch id)
      return .flag true
  | refresh slot bind =>
    Desk.withSlot Desk.monitors slot fun id => do
      let changes ← Desk.onHub (Hub.refresh id)
      let views ← changes.mapM (Desk.onHub ∘ Hub.viewChange)
      Desk.bindAll bind (changes.map Change.record)
      Desk.onHub (Hub.releaseChanges changes)
      return .changes views
  | devices slot bind =>
    Desk.withSlot Desk.monitors slot fun id => do
      let ids := (← Desk.onHub (Hub.monitor id)).registry.records
      let views ← ids.mapM Desk.view
      Desk.bindAll bind ids
      return .devices views
  | find slot identity fill =>
    Desk.withSlot Desk.monitors slot fun id => do
      match (← Desk.onHub (Hub.monitor id)).registry.find? identity with
      | none => return .device none
      | some record =>
        let view ← Desk.view record
        fill.forM (Desk.fillDevice · record)
        return .device (some view)
  | monitorInfo slot =>
    Desk.withSlot Desk.monitors slot fun id => do
      let monitor ← Desk.onHub (Hub.monitor id)
      let target := Platform.sourceTarget monitor.source
      let pending ← Desk.native.readable target 0
      return .monitor ⟨id, monitor.registry.size, monitor.filter, target.isValid, pending⟩
  | dumpMonitor slot =>
    Desk.withSlot Desk.monitors slot fun id => do
      return .text (dump id (← Desk.onHub (Hub.monitor id)))

end RegistryCommand

/-- A command on records. -/
inductive RecordCommand
  /-- Show a record. -/
  | view (slot : String)
  /-- Show a device for people. -/
  | summary (slot : String)
  /-- Dump a record. -/
  | dump (slot : String)
  /-- Take one more reference. -/
  | clone (slot into : String)
  /-- Give a reference back. -/
  | drop (slot : String)
  /-- Compare two records. -/
  | compare (first second : String)
  deriving DecidableEq, Repr

namespace RecordCommand

/-- The dump of a record. -/
def dumpText (record : DeviceRecord (Platform.Origin Bench)) : String :=
  "Device \x7b info: " ++ record.info.dump ++ ", status: " ++ record.status.title ++
    ", backend: " ++ Text.quote (Platform.name record.origin) ++ ", .. \x7d"

/-- Runs a command. -/
def run : RecordCommand → Action Desk Answer
  | view slot =>
    Desk.withSlot Desk.devices slot fun id => do return .device (some (← Desk.view id))
  | summary slot =>
    Desk.withSlot Desk.devices slot fun id => do
      let info := (← Desk.view id).info
      let status := (← Desk.view id).status
      return .summary info.summary (status == .online) info
  | dump slot =>
    Desk.withSlot Desk.devices slot fun id => do
      return .text (dumpText (← Desk.onHub (Hub.record id)))
  | clone slot into =>
    Desk.withSlot Desk.devices slot fun id => do
      Desk.fillDevice into id
      return .nothing
  | drop slot => do
    match (← Action.get).devices.get? slot with
    | none => return .flag false
    | some id =>
      Action.modify fun desk => { desk with devices := desk.devices.erase slot }
      Desk.release id
      return .flag true
  | compare first second =>
    Desk.withSlot Desk.devices first fun a => Desk.withSlot Desk.devices second fun b => do
      return .comparison (a == b) (a == b) ((← Desk.view a).info == (← Desk.view b).info)

end RecordCommand

end Hotplug
