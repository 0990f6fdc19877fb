import Hotplug.Hub.Registry
import Hotplug.Platform
/-!
# The hub

Everything the library keeps above a platform: records, monitors and open handles.

## Main definitions

* `Hotplug.Monitor`, `Hotplug.Handle`, `Hotplug.Hub`
* `Hotplug.Hub.enumerate`: looks for devices once.
* `Hotplug.Hub.watch`, `Hotplug.Hub.refresh`, `Hotplug.Hub.unwatch`: keeps a registry of devices.
* `Hotplug.Hub.open`, `Hotplug.Hub.close`
-/

namespace Hotplug

/-- The name of an open handle. Names are never used again. -/
abbrev HandleId := Nat

/-- A monitor: what it watches, where announcements come from, and the devices it knows. -/
structure Monitor (σ : Type) [Platform σ] where
  /-- The backend. -/
  origin : Platform.Origin σ
  /-- Which devices are of interest. -/
  filter : Filter
  /-- Where announcements come from. -/
  source : Platform.Source σ
  /-- The devices. -/
  registry : Registry := {}

/-- An open device. -/
structure Handle (σ : Type) [Platform σ] where
  /-- The record of the device. -/
  record : RecordId
  /-- The channel to the device. -/
  channel : Platform.Channel σ

/-- Records, monitors and open handles above a platform. -/
structure Hub (σ : Type) [Platform σ] where
  /-- The state of the platform. -/
  platform : σ
  records : Records (Platform.Origin σ) := {}
  /-- The monitors by name. -/
  monitors : Table MonitorId (Monitor σ) := {}
  /-- The name of the next monitor. The counter never comes round: even one of 64 bits would only after
  more monitors than anyone can start. -/
  nextMonitor : MonitorId := 1
  /-- The open handles by name. -/
  handles : Table HandleId (Handle σ) := {}
  /-- The name of the next handle. -/
  nextHandle : HandleId := 0

/-- What to call a monitor. -/
def monitorName (id : MonitorId) : String :=
  "monitor-" ++ toString id

namespace Hub

variable {σ : Type} [Platform σ]

/-- Runs an action of the platform. -/
def onPlatform (action : Action σ α) : Action (Hub σ) α :=
  action.on Hub.platform fun platform hub => { hub with platform }

/-- Changes the records. -/
def modifyRecords (f : Records (Platform.Origin σ) → Records (Platform.Origin σ)) :
    Action (Hub σ) Unit :=
  Action.modify fun hub => { hub with records := f hub.records }

/-- The record of a name; without one the request makes no sense. -/
def record (id : RecordId) : Action (Hub σ) (DeviceRecord (Platform.Origin σ)) := do
  match (← Action.get).records.get? id with
  | some record => return record
  | none => Action.fail (.invalid "No such device record")

/-- The monitor of a name; without one the request makes no sense. -/
def monitor (id : MonitorId) : Action (Hub σ) (Monitor σ) := do
  match (← Action.get).monitors.get? id with
  | some monitor => return monitor
  | none => Action.fail (.invalid "No such monitor")

/-- The handle of a name; without one the request makes no sense. -/
def handle (id : HandleId) : Action (Hub σ) (Handle σ) := do
  match (← Action.get).handles.get? id with
  | some handle => return handle
  | none => Action.fail (.invalid "No such handle")

/-- The line that names the device of a record for people. -/
def summary (hub : Hub σ) (id : RecordId) : String :=
  ((hub.records.get? id).map (·.info.summary)).getD ""

/-! ### Looking for devices once -/

/-- Looks for devices that pass a filter. Their records belong to no monitor; the caller has a
reference to each. -/
def enumerate (origin : Platform.Origin σ) (filter : Filter) : Action (Hub σ) (List RecordId) := do
  let found ← onPlatform (Platform.enumerate origin filter)
  Action.modifyGet fun hub =>
    let (ids, records) := hub.records.createAll origin none (found.filter filter.passes)
    (ids, { hub with records })

/-! ### Monitors -/

/-- What a monitor says about a change. -/
def announce (id : MonitorId) (hub : Hub σ) : Change → String
  | .added record => monitorName id ++ ": added " ++ hub.summary record
  | .removed record => monitorName id ++ ": removed " ++ hub.summary record

/-- Applies notices to the registry of a monitor and says what changed. The caller has a reference to
the record of each change. -/
def applyNotices (id : MonitorId) (monitor : Monitor σ) (notices : List Notice) :
    Action (Hub σ) (List Change) := do
  let changes ← Action.modifyGet fun hub =>
    let watch : Watch (Platform.Origin σ) := ⟨id, monitor.origin, monitor.filter⟩
    let (roster, changes) := watch.applyAll ⟨monitor.registry, hub.records⟩ notices
    (changes, { hub with
      records := roster.records
      monitors := hub.monitors.insert id { monitor with registry := roster.registry } })
  let hub ← Action.get
  for change in changes do Action.debug (announce id hub change)
  return changes

/-- Gives the references of changes back. -/
def releaseChanges (changes : List Change) : Action (Hub σ) Unit :=
  modifyRecords (·.releaseAll (changes.map Change.record))

/-- Starts a monitor whose announcements are being collected already, with the devices found. -/
def start (origin : Platform.Origin σ) (filter : Filter) (source : Platform.Source σ)
    (initial : List Info) : Action (Hub σ) MonitorId := do
  let id ← Action.modifyGet fun hub =>
    (hub.nextMonitor, { hub with nextMonitor := hub.nextMonitor + 1 })
  let changes ← applyNotices id { origin, filter, source } (initial.map Notice.added)
  releaseChanges changes
  let known := (((← Action.get).monitors.get? id).map (·.registry.size)).getD 0
  Action.debug (monitorName id ++ " started on '" ++ Platform.name origin ++ "' backend with " ++
    toString known ++ " device(s)")
  return id

/-- Looks for devices and starts a monitor whose announcements are being collected already. If the
devices cannot be listed, the collecting ends. -/
def settle (origin : Platform.Origin σ) (filter : Filter) (source : Platform.Source σ) :
    Action (Hub σ) MonitorId := do
  match ← (onPlatform (Platform.enumerate origin filter)).attempt with
  | .returned initial => start origin filter source initial
  | .failed failure =>
    onPlatform (Action.modify (Platform.unsubscribe source))
    Action.failAgain failure
  | .unending => Action.wait

/-- Starts a monitor. Announcements are collected before devices are looked for, so that no change in
between is lost. -/
def watch (origin : Platform.Origin σ) (filter : Filter) : Action (Hub σ) MonitorId := do
  let source ← onPlatform (Platform.subscribe origin filter)
  settle origin filter source

/-- Has the announcements of a monitor delivered and applies them. A delivery that was cut short
counts as far as it got; one that failed at once fails the whole. -/
def refresh (id : MonitorId) : Action (Hub σ) (List Change) := do
  let monitor ← monitor id
  let drained ← onPlatform (Platform.drain monitor.source)
  match drained.failure with
  | none => applyNotices id monitor drained.notices
  | some failure =>
    if drained.notices.isEmpty then Action.failAgain failure
    else
      Action.warn (monitorName id ++ ": applying " ++ toString drained.notices.length ++
        " notification(s) drained before failure: " ++ failure.message)
      applyNotices id monitor drained.notices

/-- Ends a monitor. Its records stay as they are. -/
def unwatch (id : MonitorId) : Action (Hub σ) Unit := do
  let monitor ← monitor id
  onPlatform (Action.modify (Platform.unsubscribe monitor.source))
  Action.modify fun hub =>
    { hub with
      monitors := hub.monitors.erase id
      records := hub.records.releaseAll monitor.registry.records }

/-! ### Handles -/

/-- Opens the device of a record. A disconnected record cannot be opened, and the platform is not
asked. The handle has a reference to the record. -/
def open_ (id : RecordId) : Action (Hub σ) HandleId := do
  let record ← record id
  if record.status ≠ .online then
    Action.fail (.notFound ("Device '" ++ record.info.path ++ "' is disconnected"))
  else
    let channel ← onPlatform (Platform.openChannel record.origin record.info)
    Action.debug ("Opened " ++ record.info.summary)
    Action.modifyGet fun hub =>
      (hub.nextHandle, { hub with
        records := hub.records.retain id
        handles := hub.handles.insert hub.nextHandle ⟨id, channel⟩
        nextHandle := hub.nextHandle + 1 })

/-- Closes a handle and gives its reference back. -/
def close (id : HandleId) : Action (Hub σ) Unit := do
  let handle ← handle id
  let record ← record handle.record
  Action.debug ("Closing '" ++ record.info.path ++ "'")
  Action.modify fun hub =>
    { hub with
      platform := Platform.closeChannel handle.channel hub.platform
      handles := hub.handles.erase id
      records := hub.records.release handle.record }

end Hub

end Hotplug
