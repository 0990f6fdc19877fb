import Hotplug.Node.Basic
/-!
# HID nodes

Reports travel through reads and writes of the node; feature reports and the report descriptor
travel through control requests.

## Main definitions

* `Hotplug.Node.reportDescriptor`
* `Hotplug.Node.sendFeature`, `Hotplug.Node.getFeature`
-/

namespace Hotplug.Node

/-- The failure of a control request. -/
def controlFailure (node : Node) (request : Hid.Request) (errno : Errno) : Failure :=
  if errno.isTransferError then .io ("I/O error while talking to '" ++ node.path ++ "'")
  else .system ("ioctl('" ++ node.path ++ "', " ++ request.name ++ ") failed: " ++ errno.text)

/-- Makes a control request until it is not interrupted. -/
def control (node : Node) (request : Hid.Request) (argument : Bytes) :
    Action Kernel (Except Errno (Nat × Bytes)) :=
  restarting (·.controls.length) (Kernel.control node.fd request argument)

/-- The size that the kernel gave, within what a descriptor can have. The number is signed. -/
def clampSize (word : Bytes) : Nat :=
  let size := littleEndian (word.take 4)
  if size < 0x80000000 then min size Hid.maxDescriptorSize else 0

/-- The report descriptor. The kernel is asked for its size, then for its bytes; it says again how
many there are. -/
def reportDescriptor (node : Node) : Action Kernel Bytes := do
  match ← node.control .descriptorSize (List.replicate 4 0) with
  | .error errno => Action.fail (node.controlFailure .descriptorSize errno)
  | .ok (_, word) =>
    let argument := wordBytes (clampSize word) ++ List.replicate Hid.maxDescriptorSize 0
    match ← node.control .descriptor argument with
    | .error errno => Action.fail (node.controlFailure .descriptor errno)
    | .ok (_, left) =>
      return (left.drop 4).take (min (littleEndian (left.take 4)) Hid.maxDescriptorSize)

/-- Why a feature report is not transferred. -/
inductive FeatureRefusal
  /-- The report does not fit a control request. -/
  | tooLong (size : Nat)
  /-- There is no room for a report. -/
  | noRoom
  deriving DecidableEq, Repr

/-- What to tell people. -/
def FeatureRefusal.message : FeatureRefusal → String
  | tooLong size => "Feature report of " ++ toString size ++ " bytes exceeds the ioctl size limit"
  | noRoom => "Feature report buffer is empty"

/-- Sends a feature report; answers how many bytes went. -/
def sendFeature (node : Node) (report : Bytes) : Action Kernel Nat := do
  if Hid.maxRequestSize < report.length then
    Action.fail (.invalid (FeatureRefusal.tooLong report.length).message)
  else
    let request := Hid.Request.setFeature report.length
    match ← node.control request report with
    | .ok _ => return report.length
    | .error errno =>
      if errno = .again then return 0 else Action.fail (node.controlFailure request errno)

/-- Asks for a feature report. Its number takes the first place in the buffer. Answers the count that the
kernel gives, and the buffer as the kernel leaves it. -/
def getFeature (node : Node) (id : UInt8) (buffer : Bytes) : Action Kernel (Nat × Bytes) := do
  if buffer.isEmpty then Action.fail (.invalid FeatureRefusal.noRoom.message)
  else
    let request := Hid.Request.getFeature (min buffer.length Hid.maxRequestSize)
    let argument := id :: buffer.tail
    match ← node.control request argument with
    | .ok (count, left) => return (count, left)
    | .error errno =>
      if errno = .again then return (0, argument)
      else Action.fail (node.controlFailure request errno)

end Hotplug.Node
