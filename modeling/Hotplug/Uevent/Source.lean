import Hotplug.Kernel.Basic
import Hotplug.Sysfs
import Hotplug.Uevent.Message
/-!
# Device events from the kernel

A socket on which device events arrive, sent either by the kernel or by the device manager. Messages
from anyone else are ignored, and so are messages that cannot be decoded. What remains is turned into
notices: a device that was added is looked up in the device tree, a removed one is known by its path.

## Main definitions

* `Hotplug.EventSource`: who sends the events.
* `Hotplug.UeventSocket`, `Hotplug.UeventSocket.open`, `Hotplug.UeventSocket.drain`
* `Hotplug.UeventSocket.accepts`, `Hotplug.UeventSocket.translate`
-/

namespace Hotplug

/-- Who sends the events. -/
inductive EventSource
  /-- The device manager, after it has processed them. -/
  | udev
  /-- The kernel itself. -/
  | kernel
  deriving DecidableEq, Repr, Inhabited

namespace EventSource

/-- Every sender. -/
def all : List EventSource :=
  [udev, kernel]

/-- The name of the sender. -/
def name : EventSource → String
  | udev => "udev"
  | kernel => "kernel"

/-- The sender with a given name. -/
def ofName? (text : String) : Option EventSource :=
  all.find? (·.name == text)

/-- The group of the kernel. -/
def kernelGroup : Nat := 1

/-- The group on which the sender sends. -/
def group : EventSource → Nat
  | kernel => kernelGroup
  | udev => 2

theorem ofName?_name (source : EventSource) : ofName? source.name = some source := by
  cases source <;> decide

end EventSource

/-- A socket on which device events arrive. -/
structure UeventSocket where
  /-- The descriptor. -/
  fd : Nat
  /-- Where devices are looked up. -/
  sysfs : Sysfs
  /-- Which devices are of interest. -/
  filter : Filter
  deriving DecidableEq, Repr

namespace UeventSocket

/-- Room for one message. -/
def messageRoom : Nat := 8192

/-- Events were lost because nobody received them in time. -/
def overrun : Failure :=
  .system "uevent socket overran its receive buffer, hotplug events were lost"

/-- Makes a socket and joins the group of a sender. -/
def open_ (source : EventSource) (sysfs : Sysfs) (filter : Filter) : Action Kernel UeventSocket := do
  match ← Kernel.makeSocket with
  | .error errno => Action.fail (.ofErrno "socket(NETLINK_KOBJECT_UEVENT)" errno.defined)
  | .ok fd =>
    match ← Kernel.bindSocket source.group with
    | .error errno =>
      Action.modify (·.close fd)
      Action.fail (.ofErrno "bind(NETLINK_KOBJECT_UEVENT)" errno.defined)
    | .ok () => return ⟨fd, sysfs, filter⟩

/-- Whether a sender may announce events: nobody may without an address or outside every group, and on
the kernel's group only the kernel may, whose port is zero. -/
def accepts : Option (UInt32 × UInt32) → Bool
  | none => false
  | some (port, groups) =>
    if groups = 0 then false
    else if groups.toNat = EventSource.kernelGroup then port = 0
    else true

/-- The notice that an event gives, if any. -/
def translate (socket : UeventSocket) (event : Uevent) : Action Kernel (Option Notice) := do
  match Family.ofSubsystem? event.subsystem with
  | none => return none
  | some family =>
    if !socket.filter.admits family then return none
    else match event.action with
      | .add =>
        let info ← (socket.sysfs.deviceAt event.devpath family).on Kernel.tree
          (fun tree kernel => { kernel with tree })
        return (info.filter socket.filter.passes).map Notice.added
      | .remove => return some (.removed event.devpath)
      | .other _ => return none

/-- What a received message gives: the notice, if it is from an accepted sender, can be decoded and
gives one. -/
def digest (socket : UeventSocket) (datagram : Datagram) : Action Kernel (Option Notice) := do
  if !accepts datagram.sender then
    Action.say (.diagnostic .unexpectedSender)
    return none
  else match Uevent.decode datagram.message with
    | .ok event => socket.translate event
    | .error reason =>
      Action.say (.diagnostic (.messageDropped reason))
      return none

/-- The failure of a reception, if it is one: nothing to receive is none. -/
def receptionFailure? (errno : Errno) : Option Failure :=
  if errno = .again then none
  else if errno = .noBuffers then some overrun
  else if errno = .noMemory then some .memory
  else some (.ofErrno "recvfrom(uevent)" errno.defined)

/-- Receives messages until there are none, or a reception fails, at most so many. Answers the
notices in order, and the failure. -/
def receiveAll (socket : UeventSocket) : Nat → Action Kernel (List Notice × Option Failure)
  | 0 => Action.wait
  | more + 1 => do
    match ← Kernel.receive messageRoom with
    | .error errno =>
      if errno = .interrupted then socket.receiveAll more
      else
        match receptionFailure? errno with
        | none => return ([], none)
        | some failure =>
          Action.say (.failure failure)
          return ([], some failure)
    | .ok datagram =>
      let notice ← socket.digest datagram
      let (notices, failure) ← socket.receiveAll more
      return (notice.toList ++ notices, failure)

/-- Receives every pending message. Answers the notices in order, and the failure that ended it, if
one did. -/
def drain (socket : UeventSocket) : Action Kernel (List Notice × Option Failure) := fun kernel =>
  socket.receiveAll (kernel.script.receptions.length + 1) kernel

end UeventSocket

end Hotplug
