import Hotplug.Hub.Basic
/-!
# What is shown of records

A record is shown with its status, its references and the monitor that made it, as they are at the
moment.

## Main definitions

* `Hotplug.DeviceView`, `Hotplug.ChangeView`
* `Hotplug.Hub.view`, `Hotplug.Hub.viewChange`
* `Hotplug.Hub.tryAll`: which devices can be opened.
-/

namespace Hotplug

/-- A device record as it is shown. -/
structure DeviceView where
  /-- What is known of the device. -/
  info : Info
  /-- Whether the device is there. -/
  status : Status
  /-- How many references there are. -/
  refs : Nat
  /-- The monitor that made the record, if it still runs. -/
  monitor : Option MonitorId
  deriving DecidableEq, Repr

/-- A change as it is shown. -/
inductive ChangeView
  /-- A device came in. -/
  | added (device : DeviceView)
  /-- A device went out. -/
  | removed (device : DeviceView)
  deriving DecidableEq, Repr

namespace Hub

variable {σ : Type} [Platform σ]

/-- A record as it is shown, if there is one of the name. -/
def view? (hub : Hub σ) (id : RecordId) : Option DeviceView :=
  (hub.records.get? id).map fun record => {
    info := record.info
    status := record.status
    refs := record.refs
    monitor := record.monitor.filter hub.monitors.contains }

/-- A record as it is shown. -/
def view (id : RecordId) : Action (Hub σ) DeviceView := do
  match (← Action.get).view? id with
  | some view => return view
  | none => Action.fail (.invalid "No such device record")

/-- A change as it is shown. -/
def viewChange : Change → Action (Hub σ) ChangeView
  | .added id => return .added (← view id)
  | .removed id => return .removed (← view id)

/-- The devices of a monitor as they are shown. -/
def viewDevices (id : MonitorId) : Action (Hub σ) (List DeviceView) := do
  (← monitor id).registry.records.mapM view

/-- Changes as they are shown. They are let go of afterwards. -/
def viewChanges (changes : List Change) : Action (Hub σ) (List ChangeView) := do
  let views ← changes.mapM viewChange
  releaseChanges changes
  return views

/-- Looks for devices once and opens each of them for a moment: what the device is called, and how the
opening ended. -/
def tryAll (origin : Platform.Origin σ) (filter : Filter) :
    Action (Hub σ) (List (String × Ending Unit)) := do
  let ids ← enumerate origin filter
  let tried ← ids.mapM fun id => do
    let name := (← Action.get).summary id
    match ← (open_ id).attempt with
    | .returned handle =>
      close handle
      return (name, Ending.returned ())
    | ending => return (name, ending.map fun _ => ())
  modifyRecords (·.releaseAll ids)
  return tried

end Hub

end Hotplug
