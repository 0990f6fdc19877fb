import Hotplug.Backend.Faults
import Hotplug.Hub.Transfer
import Hotplug.Journal
import Hotplug.Rig.Basic
import Hotplug.Session.Answer
/-!
# Sessions with a rig

A rig above devices in memory, with handles in named slots and a journal. Commands are given one after
another.

## Main definitions

* `Hotplug.RigSetup`, `Hotplug.RigSession`, `Hotplug.RigSession.start`
* `Hotplug.RigDeskCommand`, `Hotplug.RigCommand`, `Hotplug.RigSession.perform`
-/

namespace Hotplug

/-- How to build a rig. -/
structure RigSetup where
  /-- The devices that are there from the start. -/
  devices : List Info := []
  /-- Which devices the monitor is interested in. -/
  filter : Filter := .any
  /-- How many objects the set takes, if not as many as usual. -/
  capacity : Option Nat := none
  /-- The number of the monitor's object, if not the usual one. -/
  entry : Option UInt32 := none
  deriving DecidableEq, Repr

/-- A rig above devices in memory, with handles in named slots. -/
structure RigDesk where
  rig : Rig Memory
  /-- The handle slots. -/
  handles : Table String HandleId := {}

/-- A rig with handles and a journal. -/
structure RigSession where
  /-- The rig with handles. -/
  desk : RigDesk
  journal : Journal

/-- A command for a rig and its handles. -/
inductive RigDeskCommand
  /-- Bring an interface in. -/
  | plug (info : Info)
  /-- Take a device out. -/
  | unplug (key : String)
  /-- Let operations fail as planned. -/
  | failAs (plan : FaultPlan)
  /-- Poll the set. -/
  | poll (limit : Int)
  /-- Apply pending announcements. -/
  | refresh
  /-- Wait until the monitor has something to tell. -/
  | nextEvents (limit : Int32)
  /-- Open the device at a place among those of the monitor. -/
  | openRegistered (place : Nat) (id : UInt32) (slot : String)
  /-- Write serial output. -/
  | serialWrite (slot : String) (data : Bytes)
  /-- Close a handle. -/
  | close (slot : String)
  /-- Take an entry out of the set. -/
  | remove (id : UInt32)
  /-- List the devices of the monitor. -/
  | devices
  /-- Tell how often an operation was called. -/
  | calls (operation : Operation)
  /-- Poll the set and take the time, with at most so many objects in one call if a number is given. -/
  | measure (limit : Int) (most : Option Nat)
  deriving DecidableEq, Repr

/-- A command for a rig, its handles and its journal. -/
inductive RigCommand
  /-- A command that needs no journal. -/
  | desk (command : RigDeskCommand)
  /-- Forget the lines of the journal. -/
  | clearJournal
  /-- Tell how many failures of a code the journal has. -/
  | failuresOf (code : Code)
  deriving DecidableEq, Repr

namespace RigDesk

/-- Runs an action of the rig. -/
def onRig (action : Action (Rig Memory) α) : Action RigDesk α :=
  action.on RigDesk.rig fun rig desk => { desk with rig }

/-- Runs an action of the hub. -/
def onHub (action : Action (Hub Memory) α) : Action RigDesk α :=
  onRig (Rig.onHub action)

/-- Changes the devices in memory. -/
def onMemory (f : Memory → Memory) : Action RigDesk Unit :=
  onHub (Hub.onPlatform (Action.modify f))

/-- The changes of a result as they are shown; the result is let go of afterwards. -/
def show_ (changes : List Change) : Action RigDesk Answer := do
  return .changes (← onHub (Hub.viewChanges changes))

/-- Lays a handle into a slot. One that was there is closed afterwards. -/
def fillHandle (slot : String) (id : HandleId) : Action RigDesk Unit := do
  let old := (← Action.get).handles.get? slot
  Action.modify fun desk => { desk with handles := desk.handles.insert slot id }
  old.forM fun old => onHub (Hub.close old)

end RigDesk

namespace RigDeskCommand

/-- Runs a command. -/
def run : RigDeskCommand → Action RigDesk (Except RigFailure Answer)
  | plug info => do
    RigDesk.onMemory (·.plug info)
    return .ok .nothing
  | unplug key => do
    RigDesk.onMemory (·.unplug key)
    return .ok .nothing
  | failAs plan => do
    RigDesk.onMemory plan.apply
    return .ok .nothing
  | poll limit => do
    return .ok (.ready (← RigDesk.onRig (Rig.poll limit)))
  | refresh => do
    return .ok (← RigDesk.show_ (← RigDesk.onRig Rig.refresh))
  | nextEvents limit => do
    match ← RigDesk.onRig (Rig.nextEvents limit) with
    | .ok changes => return .ok (← RigDesk.show_ changes)
    | .error failure => return .error failure
  | openRegistered place id slot => do
    match (← RigDesk.onRig Rig.devices)[place]? with
    | none => return .ok (.emptySlot "")
    | some record =>
      match ← RigDesk.onRig (Rig.openRegistered record id) with
      | .error failure => return .error failure
      | .ok handle =>
        RigDesk.fillHandle slot handle
        return .ok (.count (← Action.get).rig.set.size)
  | serialWrite slot data => do
    match (← Action.get).handles.get? slot with
    | none => return .ok (.emptySlot slot)
    | some handle => return .ok (.count (← RigDesk.onHub (Hub.serialWrite handle data)))
  | close slot => do
    match (← Action.get).handles.get? slot with
    | none => return .ok (.flag false)
    | some handle =>
      Action.modify fun desk => { desk with handles := desk.handles.erase slot }
      RigDesk.onHub (Hub.close handle)
      return .ok (.flag true)
  | remove id => do
    return .ok (.flag (← RigDesk.onRig (Rig.remove id)))
  | devices => do
    let monitor := (← Action.get).rig.monitor
    return .ok (.devices (← RigDesk.onHub (Hub.viewDevices monitor)))
  | calls operation => do
    return .ok (.count ((← Action.get).rig.hub.platform.callCount operation))
  | measure limit most => do
    let timing ← RigDesk.onRig (match most with
      | none => Rig.measure limit
      | some most => Rig.measureWithin limit most)
    return .ok (.timed timing.limit timing.ready)

end RigDeskCommand

namespace RigSession

/-- The outcome of building a rig: a session, or the failure. -/
def start (setup : RigSetup) : Except RigFailure RigSession :=
  let platform := setup.devices.foldl Memory.attach {}
  let set : DescriptorSet := match setup.capacity with
    | none => {}
    | some capacity => { capacity }
  let entry := setup.entry.getD Rig.standardEntry
  let out := (Rig.wire () setup.filter set entry).run ({ platform } : Hub Memory)
  match out.ending with
  | .returned (monitor, set) =>
    .ok {
      desk := { rig := { hub := out.state, monitor, set, monitorEntry := entry } }
      journal := Journal.record { sink := "" } out.reports }
  | .failed failure => .error (.library failure)
  | .unending => .error (.setup "no monitor")

/-- Performs a command. -/
def perform (session : RigSession) : RigCommand → Ending (Except RigFailure Answer) × RigSession
  | .clearJournal =>
    (.returned (.ok .nothing), { session with journal := { session.journal with lines := [] } })
  | .failuresOf code =>
    (.returned (.ok (.count (session.journal.lines.countP (·.code == some code)))), session)
  | .desk command =>
    let out := command.run.under session.journal.logging session.desk
    let ending := match out.ending with
      | .failed failure => .returned (.error (.library failure))
      | ending => ending
    (ending, { desk := out.state, journal := session.journal.record out.reports })

end RigSession

end Hotplug
