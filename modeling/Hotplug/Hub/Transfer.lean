import Hotplug.Hid.Descriptor
import Hotplug.Hub.Basic
/-!
# Transfers

Serial and HID transfers on open handles. A transfer is for one family of devices, and what it is
asked for has to make sense; only then the device is called.

## Main definitions

* `Hotplug.Hub.channelFor`: the channel of a handle, if the family is right.
* `Hotplug.Hub.setAttributes`, `Hotplug.Hub.serialRead`, `Hotplug.Hub.serialWrite`
* `Hotplug.Hub.hidRead`, `Hotplug.Hub.hidWrite`, `Hotplug.Hub.sendFeature`, `Hotplug.Hub.getFeature`,
  `Hotplug.Hub.usage`
-/

namespace Hotplug.Hub

variable {σ : Type} [Platform σ]

/-- Why a transfer is refused before the device is called. -/
inductive TransferRefusal
  /-- The device is of another family. -/
  | wrongFamily (path : String) (family : Family)
  /-- There is no room for serial input. -/
  | noSerialRoom
  /-- There is no room for a report. -/
  | noReportRoom
  /-- There is no room for a feature report. -/
  | noFeatureRoom
  deriving DecidableEq, Repr

namespace TransferRefusal

/-- What to tell people. -/
def message : TransferRefusal → String
  | wrongFamily path family => "Handle for '" ++ path ++ "' is not a " ++ family.name ++ " device"
  | noSerialRoom => "Serial read buffer is empty"
  | noReportRoom => "HID read buffer is empty"
  | noFeatureRoom => "Feature report buffer needs room for id and payload"

/-- A refused transfer is an invalid request. -/
def failure (refusal : TransferRefusal) : Failure :=
  .invalid refusal.message

end TransferRefusal

/-- The channel of a handle whose device is of a family. -/
def channelFor (family : Family) (id : HandleId) : Action (Hub σ) (Platform.Channel σ) := do
  let handle ← handle id
  let record ← record handle.record
  if record.info.family = family then return handle.channel
  else Action.fail (TransferRefusal.wrongFamily record.info.path family).failure

/-- Gives a serial line its coding. -/
def setAttributes (id : HandleId) (bps : UInt32) (flags : Serial.Flags) : Action (Hub σ) Unit := do
  let channel ← channelFor .serial id
  let settings ← Action.require ((Serial.Settings.ofFlags bps flags).mapError (·.failure))
  onPlatform (Platform.configure channel settings)

/-- Waits for serial input and reads at most so many bytes. -/
def serialRead (id : HandleId) (room : Nat) (limit : Int) : Action (Hub σ) Bytes := do
  let channel ← channelFor .serial id
  if room = 0 then Action.fail TransferRefusal.noSerialRoom.failure
  else onPlatform (Platform.read channel room limit)

/-- Writes serial output; answers how many bytes were taken. Nothing is written without a call. -/
def serialWrite (id : HandleId) (data : Bytes) : Action (Hub σ) Nat := do
  let channel ← channelFor .serial id
  if data.isEmpty then return 0
  else onPlatform (Platform.write channel data)

/-- Waits for a report and reads at most so many bytes of it. -/
def hidRead (id : HandleId) (room : Nat) (limit : Int) : Action (Hub σ) Bytes := do
  let channel ← channelFor .hid id
  if room = 0 then Action.fail TransferRefusal.noReportRoom.failure
  else onPlatform (Platform.read channel room limit)

/-- Writes a report, whose first byte is its number. A report without contents is not sent. -/
def hidWrite (id : HandleId) (report : Bytes) : Action (Hub σ) Nat := do
  let channel ← channelFor .hid id
  if report.length < 2 then return 0
  else onPlatform (Platform.write channel report)

/-- Sends a feature report, whose first byte is its number. One without contents is not sent. -/
def sendFeature (id : HandleId) (report : Bytes) : Action (Hub σ) Nat := do
  let channel ← channelFor .hid id
  if report.length < 2 then return 0
  else onPlatform (Platform.sendFeature channel report)

/-- Asks for a feature report, to be put into a buffer. -/
def getFeature (id : HandleId) (number : UInt8) (buffer : Bytes) :
    Action (Hub σ) (Nat × Bytes) := do
  let channel ← channelFor .hid id
  if buffer.length < 2 then Action.fail TransferRefusal.noFeatureRoom.failure
  else onPlatform (Platform.getFeature channel number buffer)

/-- What the device is for, from its report descriptor. -/
def usage (id : HandleId) : Action (Hub σ) Hid.Usage := do
  let channel ← channelFor .hid id
  return .ofDescriptor (← onPlatform (Platform.reportDescriptor channel))

end Hotplug.Hub
