import Hotplug.Conduit
import Hotplug.FileTree.Basic
import Hotplug.Kernel.Call
import Hotplug.Wait.Engine
import Hotplug.Wait.FreeNumber
/-!
# The kernel

What stands behind open descriptors, and the calls on them. A descriptor is a plain file, one end of
a stream, or an object whose answers are given beforehand. A new descriptor takes the lowest free
number.

## Main definitions

* `Hotplug.Endpoint`: what stands behind a descriptor.
* `Hotplug.Kernel`, with `openNode`, `read`, `write`, `control`, `getTerminal`, `setTerminal`,
  `receive`
* `Hotplug.Kernel.native`: waiting for descriptors.
-/

namespace Hotplug

/-- One end of a stream whose other end is in foreign hands. -/
structure Stream where
  /-- What was sent to this end. -/
  inbox : Conduit := {}
  /-- What this end sent. -/
  outbox : Conduit := {}
  /-- Whether the other end is open. -/
  peerOpen : Bool := true
  /-- Whether the other end was closed with unread bytes, and nobody was told. -/
  reset : Bool := false
  deriving DecidableEq, Repr

/-- What stands behind a descriptor. -/
inductive Endpoint
  /-- An object whose answers are given beforehand. -/
  | scripted
  /-- A plain file, and the place of the next byte to read or write. -/
  | file (contents : Bytes) (position : Nat)
  /-- One end of a stream. -/
  | stream (stream : Stream)
  deriving DecidableEq, Repr

/-- The kernel, as far as this library calls on it. -/
structure Kernel where
  /-- The files. -/
  tree : FileTree := {}
  /-- Answers given beforehand. -/
  script : CallScript := {}
  /-- Whether newly opened nodes answer from the script. -/
  nodesScripted : Bool := false
  /-- What stands behind each open descriptor. -/
  endpoints : List (Nat × Endpoint) := []
  /-- The calls made on scripted objects, oldest first. -/
  calls : List Syscall := []
  /-- The clock, in nanoseconds. -/
  clock : Nat := 0

/-- Input can be read. -/
def pollIn : Nat := 1
/-- Output can be written. -/
def pollOut : Nat := 4
/-- An error is pending. -/
def pollError : Nat := 8
/-- The other end hung up. -/
def pollHangup : Nat := 16
/-- The descriptor is not open. -/
def pollInvalid : Nat := 32

/-- The events that count as an object being ready for `wanted`. -/
def readyMask (wanted : Nat) : Nat :=
  wanted ||| pollError ||| pollHangup ||| pollInvalid

namespace Kernel

/-- What stands behind a descriptor. -/
def endpoint? (kernel : Kernel) (fd : Nat) : Option Endpoint :=
  kernel.endpoints.lookup fd

/-- Changes what stands behind a descriptor. -/
def setEndpoint (kernel : Kernel) (fd : Nat) (endpoint : Endpoint) : Kernel :=
  { kernel with
    endpoints := kernel.endpoints.map fun (n, e) => if n = fd then (n, endpoint) else (n, e) }

/-- Opens a descriptor. -/
def install (kernel : Kernel) (endpoint : Endpoint) : Nat × Kernel :=
  let fd := newDescriptor (kernel.endpoints.map (·.1))
  (fd, { kernel with endpoints := kernel.endpoints ++ [(fd, endpoint)] })

/-- Closes a descriptor. -/
def close (kernel : Kernel) (fd : Nat) : Kernel :=
  { kernel with endpoints := kernel.endpoints.filter (·.1 != fd) }

/-- Notes a call on a scripted object. -/
def note (call : Syscall) : Action Kernel Unit :=
  Action.modify fun k => { k with calls := k.calls ++ [call] }

/-- Opens the node that a path leads to for reading and writing. -/
def openNode (path : String) : Action Kernel (Except SystemError Nat) := do
  let kernel ← Action.get
  match kernel.tree.read path with
  | .error error => return .error error
  | .ok contents =>
    let fd ← Action.modifyGet fun k =>
      k.install (if k.nodesScripted then .scripted else .file contents 0)
    return .ok fd

/-- Reads at most so many bytes from a descriptor. -/
def read (fd length : Nat) : Action Kernel (Except Errno Bytes) := do
  match (← Action.get).endpoint? fd with
  | none => return .error .badDescriptor
  | some .scripted =>
    note (.read length)
    let answers := (← Action.get).script.reads
    Action.modify fun k => { k with script := { k.script with reads := answers.drop 1 } }
    return (nextAnswer (.error .badDescriptor) answers).map (·.take length)
  | some (.file contents position) =>
    let data := (contents.drop position).take length
    Action.modify (·.setEndpoint fd (.file contents (position + data.length)))
    return .ok data
  | some (.stream stream) =>
    if length = 0 then return .ok []
    else if !stream.inbox.isEmpty then
      let (data, inbox) := stream.inbox.receive length
      Action.modify (·.setEndpoint fd (.stream { stream with inbox }))
      return .ok data
    else if stream.reset then
      Action.modify (·.setEndpoint fd (.stream { stream with reset := false }))
      return .error .connectionReset
    else if stream.peerOpen then return .error .again
    else return .ok []

/-- Writes bytes to a descriptor; answers how many were taken. -/
def write (fd : Nat) (data : Bytes) : Action Kernel (Except Errno Nat) := do
  match (← Action.get).endpoint? fd with
  | none => return .error .badDescriptor
  | some .scripted =>
    note (.write data)
    let answers := (← Action.get).script.writes
    Action.modify fun k => { k with script := { k.script with writes := answers.drop 1 } }
    return (nextAnswer (.error .badDescriptor) answers).map (min · data.length)
  | some (.file contents position) =>
    let contents := contents.take position ++ data ++ contents.drop (position + data.length)
    Action.modify (·.setEndpoint fd (.file contents (position + data.length)))
    return .ok data.length
  | some (.stream stream) =>
    if stream.peerOpen then
      let (outbox, left) := stream.outbox.send data
      Action.modify (·.setEndpoint fd (.stream { stream with outbox }))
      let taken := data.length - left.length
      return if taken = 0 ∧ data ≠ [] then .error .again else .ok taken
    else return .error .brokenPipe

/-- Makes a control request. Answers its value and the argument as the kernel leaves it. -/
def control (fd : Nat) (request : Hid.Request) (argument : Bytes) :
    Action Kernel (Except Errno (Nat × Bytes)) := do
  match (← Action.get).endpoint? fd with
  | none => return .error .badDescriptor
  | some .scripted =>
    note (.control request (argument.take request.size))
    let answers := (← Action.get).script.controls
    Action.modify fun k => { k with script := { k.script with controls := answers.drop 1 } }
    return (nextAnswer (.error .badDescriptor) answers).map fun reply =>
      let stored := reply.stored.take request.size
      (reply.value, stored ++ argument.drop stored.length)
  | some _ => return .error .notTerminal

/-- Asks for the attributes of a terminal. -/
def getTerminal (fd : Nat) : Action Kernel (Except Errno Serial.Terminal) := do
  match (← Action.get).endpoint? fd with
  | none => return .error .badDescriptor
  | some .scripted =>
    note .getTerminal
    let answers := (← Action.get).script.terminals
    Action.modify fun k => { k with script := { k.script with terminals := answers.drop 1 } }
    return nextAnswer (.error .badDescriptor) answers
  | some _ => return .error .notTerminal

/-- Changes the attributes of a terminal at once. -/
def setTerminal (fd : Nat) (terminal : Serial.Terminal) : Action Kernel (Except Errno Unit) := do
  match (← Action.get).endpoint? fd with
  | none => return .error .badDescriptor
  | some .scripted =>
    note (.setTerminal 0 terminal)
    let answers := (← Action.get).script.settings
    Action.modify fun k => { k with script := { k.script with settings := answers.drop 1 } }
    return nextAnswer (.error .badDescriptor) answers
  | some _ => return .error .notTerminal

/-- Makes a socket for device events. -/
def makeSocket : Action Kernel (Except Errno Nat) := do
  note (.socket 16 526339 15)
  let answers := (← Action.get).script.sockets
  Action.modify fun k => { k with script := { k.script with sockets := answers.drop 1 } }
  match nextAnswer (.ok ()) answers with
  | .error errno => return .error errno
  | .ok () => return .ok (← Action.modifyGet (·.install .scripted))

/-- Binds a socket to groups of senders. -/
def bindSocket (groups : Nat) : Action Kernel (Except Errno Unit) := do
  note (.bind 0 groups)
  let answers := (← Action.get).script.binds
  Action.modify fun k => { k with script := { k.script with binds := answers.drop 1 } }
  return nextAnswer (.ok ()) answers

/-- Receives the next message, or the first bytes of it if it is longer than `room`. -/
def receive (room : Nat) : Action Kernel (Except Errno Datagram) := do
  let answers := (← Action.get).script.receptions
  Action.modify fun k => { k with script := { k.script with receptions := answers.drop 1 } }
  return (nextAnswer (.error .again) answers).map fun datagram =>
    { datagram with message := datagram.message.take room }

/-! ### Waiting -/

/-- The events that are pending on an open end of a stream. -/
def streamEvents (stream : Stream) : Nat :=
  (if stream.outbox.isReady then pollOut else 0) |||
    (if !stream.inbox.isEmpty ∨ !stream.peerOpen then pollIn else 0) |||
    (if stream.peerOpen then 0 else pollHangup) ||| (if stream.reset then pollError else 0)

/-- The events that are pending on a descriptor whose answers are not given beforehand. -/
def events (kernel : Kernel) (fd : Int) : Nat :=
  match kernel.endpoint? fd.toNat with
  | some (.stream stream) => streamEvents stream
  | some (.file ..) => pollIn ||| pollOut
  | some .scripted => 0
  | none => pollInvalid

/-- Whether the answers of a descriptor are given beforehand. -/
def isScripted (kernel : Kernel) (fd : Int) : Bool :=
  kernel.endpoint? fd.toNat == some .scripted

/-- Waits until one of some descriptors has an event that is wanted, or that is always reported.
Answers the events of each. With a scripted descriptor among them the script answers for all. -/
def poll (fds : List Int) (wanted : Nat) (limit : Int) :
    Action Kernel (Except Errno (List Nat)) := do
  let kernel ← Action.get
  if fds.any kernel.isScripted then
    note (.poll wanted limit)
    let answers := kernel.script.polls
    Action.modify fun k => { k with
      script := { k.script with polls := answers.drop 1, pauses := k.script.pauses.drop 1 }
      clock := k.clock + k.script.pauses.headD 0 }
    return (nextAnswer (.error .badDescriptor) answers).map fun found => fds.map fun _ => found
  else
    let found := fds.map fun fd => kernel.events fd &&& readyMask wanted
    if found.any (· ≠ 0) then return .ok found
    else if limit < 0 then Action.wait
    else
      Action.modify fun k => { k with clock := k.clock + limit.toNat * Deadline.perMilli }
      return .ok found

/-- The answer of a wait, from the answer of the kernel. -/
def readiness (wanted : Nat) : Except Errno (List Nat) → Action Kernel Readiness
  | .error errno =>
    if errno = .interrupted then return .interrupted
    else if errno = .noMemory then Action.fail .memory
    else Action.fail (.system ("poll() failed: " ++ errno.text))
  | .ok found =>
    if found.all (· = 0) then return .timedOut
    else return .ready (found.zipIdx.filterMap fun (events, place) =>
      if events &&& readyMask wanted ≠ 0 then some place else none)

/-- Waiting for descriptors. -/
def native : NativeWait Kernel where
  limit := none
  now := fun k => (k.clock, k)
  sleep := fun ms k => { k with clock := k.clock + ms * Deadline.perMilli }
  call := fun objects limit => do
    let fds ← Action.require (Waitable.descriptors objects)
    readiness pollIn (← poll fds pollIn (max limit (-1)))
  patience := fun limit k => k.script.polls.length + limit.toNat + 2
  output := fun fd limit => do
    readiness pollOut (← poll [fd] pollOut (max limit (-1)))

end Kernel

end Hotplug
