import Hotplug.Backend.Operation
import Hotplug.Conduit
import Hotplug.Errno
import Hotplug.Platform
import Hotplug.Table
import Hotplug.Wait.FreeNumber
/-!
# Devices in memory

A backend whose devices are plain data. Devices are plugged in and out by hand, announcements and
input travel over pairs of connected descriptors, and a device sends back whatever is written to it.
Every call is counted, and the next call of an operation can be made to fail.

## Main definitions

* `Hotplug.Memory`: devices, subscribers, open channels and faults.
* `Hotplug.Memory.plug`, `Hotplug.Memory.unplug`, `Hotplug.Memory.inject`, `Hotplug.Memory.failNext`:
  what is done to the devices from outside.
* `Hotplug.Memory.enter`: what every call begins with.
* `Hotplug.Memory.native`: waiting for the descriptors of the pairs.
* The platform of devices in memory.

## Design notes

A pair has two descriptors. The end in foreign hands never has input while both ends are open; when a
subscription ends, its signalling end stays open until the next announcement, and as the other end is
closed it counts as ready until then.
-/

namespace Hotplug

/-- Where announcements wait for one subscriber. -/
structure Mailbox where
  /-- The descriptor on which the subscriber is signalled. -/
  signal : Nat
  /-- The descriptor on which the subscriber waits. -/
  receiver : Nat
  /-- Signals that have not been taken. -/
  signals : Nat := 0
  /-- The announcements, oldest first. -/
  queue : List Notice := []
  deriving DecidableEq, Repr

/-- Leaves an announcement and signals the subscriber. -/
def Mailbox.post (box : Mailbox) (notice : Notice) : Mailbox :=
  { box with signals := box.signals + 1, queue := box.queue ++ [notice] }

/-- Takes every signal and every announcement out. -/
def Mailbox.empty (box : Mailbox) : Mailbox :=
  { box with signals := 0, queue := [] }

/-- The connection of an open channel with its device. -/
structure Pipe where
  /-- The path of the device. -/
  path : String
  /-- The descriptor on which the channel waits. -/
  host : Nat
  /-- The descriptor of the device's end. -/
  device : Nat
  /-- What the device sent. -/
  inbox : Conduit := {}
  deriving DecidableEq, Repr

/-- What is kept of a device under its path. -/
structure MemoryDevice where
  /-- Every byte ever written to it. -/
  written : Bytes := []
  /-- The line coding it was given last. -/
  settings : Option Serial.Settings := none
  /-- The report descriptor it gives. -/
  reportDescriptor : Bytes := []
  /-- The feature reports it was sent, by number. -/
  features : Table UInt8 Bytes := {}
  deriving DecidableEq, Repr

/-- Devices in memory, with subscribers, open channels and faults. -/
structure Memory where
  /-- The interfaces that are there, in the order in which they came. -/
  present : List Info := []
  /-- The mailboxes of the subscribers. -/
  mailboxes : Table Nat Mailbox := {}
  /-- Signalling descriptors of ended subscriptions that are still open. -/
  lingering : List Nat := []
  /-- What is kept of the devices, by path. -/
  devices : Table String MemoryDevice := {}
  /-- The connections of open channels. -/
  pipes : Table Nat Pipe := {}
  /-- The fault that waits for the next call of each operation. -/
  faults : Table Operation Code := {}
  /-- The calls so far, oldest first. -/
  calls : List Operation := []
  /-- The name of the next subscriber or channel. -/
  next : Nat := 0
  /-- The clock, in nanoseconds. -/
  clock : Nat := 0
  deriving DecidableEq, Repr

namespace Memory

/-- A subscriber: the name of its mailbox, and the descriptor on which it waits. -/
structure Subscriber where
  /-- The name. -/
  id : Nat
  /-- The descriptor. -/
  receiver : Nat
  deriving DecidableEq, Repr

/-- An open channel: the name of its connection, the path of the device, and the descriptor on which
it waits. -/
structure Channel where
  /-- The name. -/
  id : Nat
  path : String
  /-- The descriptor. -/
  host : Nat
  deriving DecidableEq, Repr

/-! ### From outside -/

/-- Announces a change to every subscriber. Ended subscriptions are forgotten. -/
def announce (memory : Memory) (notice : Notice) : Memory :=
  { memory with mailboxes := memory.mailboxes.map (·.post notice), lingering := [] }

/-- Brings an interface in without a word. -/
def attach (memory : Memory) (info : Info) : Memory :=
  { memory with present := memory.present ++ [info] }

/-- Brings an interface in and announces it. -/
def plug (memory : Memory) (info : Info) : Memory :=
  (memory.attach info).announce (.added info)

/-- Takes every interface of a device out and announces it. -/
def unplug (memory : Memory) (key : String) : Memory :=
  { memory with present := memory.present.filter (·.key ≠ key) }.announce (.removed key)

/-- Lets the next call of an operation fail, in place of a fault that waits already. -/
def failNext (memory : Memory) (fault : Fault) : Memory :=
  { memory with faults := memory.faults.insert fault.operation fault.code }

/-- How often an operation was called. -/
def callCount (memory : Memory) (operation : Operation) : Nat :=
  memory.calls.count operation

/-- What is kept of the device at a path. -/
def device (memory : Memory) (path : String) : MemoryDevice :=
  (memory.devices.get? path).getD {}

/-- Changes what is kept of the device at a path. -/
def alter (memory : Memory) (path : String) (f : MemoryDevice → MemoryDevice) : Memory :=
  { memory with devices := memory.devices.insert path (f (memory.device path)) }

/-- Lets the device at a path send input to every open channel. What finds no room is lost. -/
def inject (memory : Memory) (path : String) (data : Bytes) : Memory :=
  { memory with
    pipes := memory.pipes.map fun pipe =>
      if pipe.path = path then { pipe with inbox := (pipe.inbox.send data).1 } else pipe }

/-- Sets the report descriptor that the device at a path gives. -/
def setReportDescriptor (memory : Memory) (path : String) (descriptor : Bytes) : Memory :=
  memory.alter path ({ · with reportDescriptor := descriptor })

/-! ### Descriptors -/

/-- The descriptors in use. -/
def descriptors (memory : Memory) : List Nat :=
  memory.mailboxes.values.flatMap (fun box => [box.signal, box.receiver]) ++ memory.lingering ++
    memory.pipes.values.flatMap fun pipe => [pipe.host, pipe.device]

/-- Two new descriptors that are connected with each other. -/
def newPair (memory : Memory) : Nat × Nat :=
  let first := newDescriptor memory.descriptors
  (first, newDescriptor (first :: memory.descriptors))

/-- Whether a descriptor is open and has no input. -/
def isQuiet (memory : Memory) (fd : Nat) : Bool :=
  (memory.mailboxes.values.any fun box =>
    box.signal == fd || (box.receiver == fd && box.signals == 0)) ||
  memory.pipes.values.any fun pipe =>
    pipe.device == fd || (pipe.host == fd && pipe.inbox.isEmpty)

/-- The places of the descriptors that are ready. One that is not open is. -/
def readyPlaces (memory : Memory) (fds : List Int) : List Nat :=
  fds.zipIdx.filterMap fun (fd, place) => if memory.isQuiet fd.toNat then none else some place

/-- Waiting for descriptors. There is always room for output. -/
def native : NativeWait Memory where
  limit := none
  now := fun memory => (memory.clock, memory)
  sleep := fun ms memory => { memory with clock := memory.clock + ms * Deadline.perMilli }
  call := fun objects limit => do
    let fds ← Action.require (Waitable.descriptors objects)
    match (← Action.get).readyPlaces fds with
    | [] =>
      if limit < 0 then Action.wait
      else
        Action.modify fun memory =>
          { memory with clock := memory.clock + limit.toNat * Deadline.perMilli }
        return .timedOut
    | places => return .ready places
  patience := fun limit _ => limit.toNat + 2
  output := fun _ _ => return .ready [0]

/-! ### Calls -/

/-- Begins a call: counts it, and fails if a fault waits for it. The fault is used up. -/
def enter (operation : Operation) : Action Memory Unit := do
  let fault ← Action.modifyGet fun memory =>
    (memory.faults.get? operation,
      { memory with
        calls := memory.calls ++ [operation]
        faults := memory.faults.erase operation })
  match fault with
  | some code => Action.fail (Fault.failure ⟨operation, code⟩)
  | none => return ()

/-- The interfaces that are there and pass a filter. -/
def enumerate (filter : Filter) : Action Memory (List Info) := do
  enter .enumerate
  return (← Action.get).present.filter filter.passes

/-- Opens a mailbox. -/
def subscribe : Action Memory Subscriber := do
  enter .subscribe
  Action.modifyGet fun memory =>
    let (signal, receiver) := memory.newPair
    (⟨memory.next, receiver⟩, { memory with
      mailboxes := memory.mailboxes.insert memory.next { signal, receiver }
      next := memory.next + 1 })

/-- Ends a subscription. -/
def unsubscribe (subscriber : Subscriber) (memory : Memory) : Memory :=
  { memory with
    mailboxes := memory.mailboxes.erase subscriber.id
    lingering := memory.lingering ++
      ((memory.mailboxes.get? subscriber.id).map Mailbox.signal).toList }

/-- Empties a mailbox. A failure leaves it as it is. -/
def drain (subscriber : Subscriber) : Action Memory Drained := do
  match ← (enter .drain).attempt with
  | .returned () =>
    let queue ← Action.modifyGet fun memory =>
      (((memory.mailboxes.get? subscriber.id).map Mailbox.queue).getD [],
        { memory with mailboxes := memory.mailboxes.update subscriber.id Mailbox.empty })
    return { notices := queue }
  | .failed failure => return { failure }
  | .unending => Action.wait

/-- The device is not there. -/
def absent (path : String) : Failure :=
  .notFound (path ++ " failed: device not found")

/-- Connects a channel with a device, if any interface that is there has its path. -/
def open_ (info : Info) : Action Memory Channel := do
  enter .openDevice
  if (← Action.get).present.all (·.path ≠ info.path) then Action.fail (absent info.path)
  else Action.modifyGet fun memory =>
    let (host, device) := memory.newPair
    (⟨memory.next, info.path, host⟩, { memory.alter info.path id with
      pipes := memory.pipes.insert memory.next { path := info.path, host, device }
      next := memory.next + 1 })

/-- Closes a channel. What was not read is lost. -/
def close (channel : Channel) (memory : Memory) : Memory :=
  { memory with pipes := memory.pipes.erase channel.id }

/-- Reading nothing counts as the end of input. -/
def endOfInput (path : String) : Failure :=
  .io ("I/O error while reading from '" ++ path ++ "'")

/-- Waits for input until a limit runs out, then reads at most so many bytes. -/
def read (channel : Channel) (room : Nat) (limit : Int) : Action Memory Bytes := do
  enter .read
  if ← native.readable (.fd channel.host) limit then
    if room = 0 then Action.fail (endOfInput channel.path)
    else Action.modifyGet fun memory =>
      (((memory.pipes.get? channel.id).map fun pipe => (pipe.inbox.receive room).1).getD [],
        { memory with
          pipes := memory.pipes.update channel.id fun pipe =>
            { pipe with inbox := (pipe.inbox.receive room).2 } })
  else return []

/-- What the device sends back finds no room. -/
def congested (path : String) : Failure :=
  .ofErrno ("write('" ++ path ++ "')") .again

/-- Writes bytes. The device keeps them and sends them back on the same channel. The write fails if
not all of them find room there; those that do are on their way all the same. -/
def write (channel : Channel) (data : Bytes) : Action Memory Nat := do
  enter .write
  let left ← Action.modifyGet fun memory =>
    (((memory.pipes.get? channel.id).map fun pipe => (pipe.inbox.send data).2).getD [],
      { memory.alter channel.path fun kept => { kept with written := kept.written ++ data } with
        pipes := memory.pipes.update channel.id fun pipe =>
          { pipe with inbox := (pipe.inbox.send data).1 } })
  if left.isEmpty then return data.length else Action.fail (congested channel.path)

/-- Gives the device a line coding. -/
def configure (channel : Channel) (settings : Serial.Settings) : Action Memory Unit := do
  enter .configureSerial
  Action.modify (·.alter channel.path ({ · with settings := some settings }))

/-- The report descriptor of the device. -/
def reportDescriptor (channel : Channel) : Action Memory Bytes := do
  enter .reportDescriptor
  return ((← Action.get).device channel.path).reportDescriptor

/-- Sends the device a feature report, whose first byte is its number. -/
def sendFeature (channel : Channel) (report : Bytes) : Action Memory Nat := do
  enter .featureReport
  match report.head? with
  | none => return 0
  | some number =>
    Action.modify (·.alter channel.path fun kept =>
      { kept with features := kept.features.insert number report })
    return report.length

/-- The device was never sent the feature report asked for. -/
def noFeature (path : String) (number : UInt8) : Failure :=
  .io ("Feature report " ++ toString number ++ " not available on '" ++ path ++ "'")

/-- Asks the device for a feature report. What does not fit the buffer is cut off. -/
def getFeature (channel : Channel) (number : UInt8) (buffer : Bytes) :
    Action Memory (Nat × Bytes) := do
  enter .featureReport
  match ((← Action.get).device channel.path).features.get? number with
  | none => Action.fail (noFeature channel.path number)
  | some report =>
    let fitting := report.take buffer.length
    return (fitting.length, fitting ++ buffer.drop fitting.length)

instance : Platform Memory where
  Origin := Unit
  Source := Subscriber
  Channel := Channel
  name := fun _ => "mock"
  enumerate := fun _ => enumerate
  subscribe := fun _ _ => subscribe
  unsubscribe := unsubscribe
  drain := drain
  sourceTarget := fun subscriber => .fd subscriber.receiver
  openChannel := fun _ => open_
  closeChannel := close
  channelTarget := fun channel => .fd channel.host
  read := read
  write := write
  configure := configure
  reportDescriptor := reportDescriptor
  sendFeature := sendFeature
  getFeature := getFeature
  native := native

end Memory

end Hotplug
