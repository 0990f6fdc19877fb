import Hotplug.Node.Hidraw
import Hotplug.Node.Terminal
import Hotplug.Platform
import Hotplug.Uevent.Source
/-!
# Linux

The platform whose devices are in the kernel's device tree, whose announcements are device events, and
whose channels are device nodes.

## Main definitions

* `Hotplug.LinuxSetup`: where the device tree and the nodes are, and who sends the events.
* `Hotplug.Linux` and its platform.
-/

namespace Hotplug

/-- Where the platform finds things. -/
structure LinuxSetup where
  /-- The roots of the device tree and of the device nodes. -/
  sysfs : Sysfs := ⟨"/sys", "/dev"⟩
  /-- Who sends device events. -/
  events : EventSource := .udev
  deriving DecidableEq, Repr

/-- The kernel, seen through a setup. -/
structure Linux where
  kernel : Kernel := {}
  setup : LinuxSetup := {}

namespace Linux

/-- An open device node of a family. -/
structure Channel where
  family : Family
  node : Node
  deriving DecidableEq, Repr

/-- Runs an action of the kernel. -/
def onKernel (action : Action Kernel α) : Action Linux α :=
  action.on Linux.kernel fun kernel linux => { linux with kernel }

/-- Runs an action on the file tree of a kernel. -/
def onTree (action : Action FileTree α) : Action Kernel α :=
  action.on Kernel.tree fun tree kernel => { kernel with tree }

/-- The devices in the device tree that pass a filter. -/
def enumerate (filter : Filter) : Action Linux (List Info) := do
  onKernel (onTree ((← Action.get).setup.sysfs.enumerate filter))

/-- Joins the group of those who receive device events. -/
def subscribe (filter : Filter) : Action Linux UeventSocket := do
  let setup := (← Action.get).setup
  onKernel (UeventSocket.open_ setup.events setup.sysfs filter)

/-- Receives the pending events. -/
def drain (socket : UeventSocket) : Action Linux Drained := do
  let (notices, failure) ← onKernel socket.drain
  return { notices, failure }

/-- Opens the node of a device. -/
def open_ (info : Info) : Action Linux Channel :=
  onKernel do return ⟨info.family, ← Node.open_ info.path⟩

namespace Channel

/-- Reads from the node. -/
def read (channel : Channel) (room : Nat) (limit : Int) : Action Kernel Bytes :=
  channel.node.read room limit

/-- Writes to the node. A serial port is waited for, a report goes at once or not at all. -/
def write (channel : Channel) (data : Bytes) : Action Kernel Nat :=
  match channel.family with
  | .hid => channel.node.writeOnce data
  | .serial => channel.node.writeBlocking data

/-- Gives a serial port its coding. -/
def configure (channel : Channel) (settings : Serial.Settings) : Action Kernel Unit :=
  match channel.family with
  | .hid => Action.fail Lacking.serialSettings.failure
  | .serial => channel.node.configure settings

/-- The report descriptor of a human interface device. -/
def reportDescriptor (channel : Channel) : Action Kernel Bytes :=
  match channel.family with
  | .hid => channel.node.reportDescriptor
  | .serial => Action.fail Lacking.reportDescriptor.failure

/-- Sends a feature report to a human interface device. -/
def sendFeature (channel : Channel) (report : Bytes) : Action Kernel Nat :=
  match channel.family with
  | .hid => channel.node.sendFeature report
  | .serial => Action.fail Lacking.featureReports.failure

/-- Asks a human interface device for a feature report, to be put into a buffer. -/
def getFeatureInto (channel : Channel) (number : UInt8) (buffer : Bytes) :
    Action Kernel (Nat × Bytes) :=
  match channel.family with
  | .hid => channel.node.getFeature number buffer
  | .serial => Action.fail Lacking.featureReports.failure

/-- Asks a human interface device for a feature report, to be put into a new buffer. -/
def getFeature (channel : Channel) (number : UInt8) (room : Nat) : Action Kernel (Nat × Bytes) :=
  channel.getFeatureInto number (List.replicate room 0)

end Channel

instance : Platform Linux where
  Origin := Unit
  Source := UeventSocket
  Channel := Channel
  name := fun _ => "linux"
  enumerate := fun _ => enumerate
  subscribe := fun _ => subscribe
  unsubscribe := fun socket linux => { linux with kernel := linux.kernel.close socket.fd }
  drain := drain
  sourceTarget := fun socket => .fd socket.fd
  openChannel := fun _ => open_
  closeChannel := fun channel linux => { linux with kernel := linux.kernel.close channel.node.fd }
  channelTarget := fun channel => channel.node.waitable
  read := fun channel room limit => onKernel (channel.read room limit)
  write := fun channel data => onKernel (channel.write data)
  configure := fun channel settings => onKernel (channel.configure settings)
  reportDescriptor := fun channel => onKernel channel.reportDescriptor
  sendFeature := fun channel report => onKernel (channel.sendFeature report)
  getFeature := fun channel number buffer => onKernel (channel.getFeatureInto number buffer)
  native := Kernel.native.on Linux.kernel fun kernel linux => { linux with kernel }

end Linux

/-- The systems that have a platform of their own, and the rest. -/
inductive Host
  | linux
  | unsupported
  deriving DecidableEq, Repr

namespace Host

/-- Every system. -/
def all : List Host :=
  [linux, unsupported]

/-- The name of the system. -/
def name : Host → String
  | linux => "linux"
  | unsupported => "unsupported"

/-- The system that the library runs on. -/
def detected : Host :=
  linux

end Host

end Hotplug
