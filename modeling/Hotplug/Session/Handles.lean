import Hotplug.Session.Desk
/-!
# Commands on handles

Opening and closing devices, and transfers.

## Main definitions

* `Hotplug.HandleCommand`, `Hotplug.HandleCommand.run`
-/

namespace Hotplug

/-- A command on handles. -/
inductive HandleCommand
  /-- Open a device. -/
  | open_ (device slot : String)
  /-- Close a handle. -/
  | close (slot : String)
  /-- Tell about a handle. -/
  | view (slot : String)
  /-- Dump a handle. -/
  | dump (slot : String)
  /-- Lay the device of a handle into a slot. -/
  | deviceOf (slot into : String)
  /-- Give a serial line its coding. -/
  | setAttributes (slot : String) (bps : UInt32) (flags : Serial.Flags)
  /-- Read serial input. -/
  | serialRead (slot : String) (room : Nat) (limit : Int)
  /-- Read a report. -/
  | hidRead (slot : String) (room : Nat) (limit : Int)
  /-- Write serial output. -/
  | serialWrite (slot : String) (data : Bytes)
  /-- Write a report. -/
  | hidWrite (slot : String) (report : Bytes)
  /-- Send a feature report. -/
  | sendFeature (slot : String) (report : Bytes)
  /-- Ask for a feature report, in a new buffer. -/
  | getFeature (slot : String) (number : UInt8) (room : Nat)
  /-- Ask what a device is for. -/
  | usage (slot : String)
  deriving DecidableEq, Repr

namespace HandleCommand

/-- The dump of a handle. What it waits for is nobody's business. -/
def dumpText (path : String) : String :=
  "Handle \x7b device: " ++ Text.quote path ++ ", descriptor: Fd(#) \x7d"

/-- The record behind a handle. -/
def recordOf (id : HandleId) : Action Desk RecordId := do
  return (← Desk.onHub (Hub.handle id)).record

/-- The object that a handle waits for. -/
def targetOf (id : HandleId) : Action Desk Waitable := do
  return Platform.channelTarget (← Desk.onHub (Hub.handle id)).channel

/-- Runs a command. -/
def run : HandleCommand → Action Desk Answer
  | open_ device slot =>
    Desk.withSlot Desk.devices device fun id => do
      let handle ← Desk.onHub (Hub.open_ id)
      Desk.fillHandle slot handle
      return .flag true
  | close slot => do
    match (← Action.get).handles.get? slot with
    | none => return .flag false
    | some id =>
      Action.modify fun desk => { desk with handles := desk.handles.erase slot }
      Desk.onHub (Hub.close id)
      return .flag true
  | view slot =>
    Desk.withSlot Desk.handles slot fun id => do
      let device ← Desk.view (← recordOf id)
      let ready ← (Desk.native.readable (← targetOf id) 0).attempt
      return .handle device ready.value?
  | dump slot =>
    Desk.withSlot Desk.handles slot fun id => do
      let record ← Desk.onHub (Hub.record (← recordOf id))
      return .text (dumpText record.info.path)
  | deviceOf slot into =>
    Desk.withSlot Desk.handles slot fun id => do
      Desk.fillDevice into (← recordOf id)
      return .nothing
  | setAttributes slot bps flags =>
    Desk.withSlot Desk.handles slot fun id => do
      Desk.onHub (Hub.setAttributes id bps flags)
      return .flag true
  | serialRead slot room limit =>
    Desk.withSlot Desk.handles slot fun id => do
      let data ← Desk.onHub (Hub.serialRead id room limit)
      return .received data.length data
  | hidRead slot room limit =>
    Desk.withSlot Desk.handles slot fun id => do
      let data ← Desk.onHub (Hub.hidRead id room limit)
      return .received data.length data
  | serialWrite slot data =>
    Desk.withSlot Desk.handles slot fun id => do
      return .count (← Desk.onHub (Hub.serialWrite id data))
  | hidWrite slot report =>
    Desk.withSlot Desk.handles slot fun id => do
      return .count (← Desk.onHub (Hub.hidWrite id report))
  | sendFeature slot report =>
    Desk.withSlot Desk.handles slot fun id => do
      return .count (← Desk.onHub (Hub.sendFeature id report))
  | getFeature slot number room =>
    Desk.withSlot Desk.handles slot fun id => do
      let (count, data) ← Desk.onHub (Hub.getFeature id number (List.replicate room 0))
      return .received count data
  | usage slot =>
    Desk.withSlot Desk.handles slot fun id => do
      return .usage (← Desk.onHub (Hub.usage id))

end HandleCommand

end Hotplug
