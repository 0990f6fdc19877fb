import Hotplug.Kernel.Basic
/-!
# Device nodes

Reading and writing an open device node. Interrupted calls are made again. A call that would have to
wait transfers nothing. A device that no longer answers is told apart from every other failure.

## Main definitions

* `Hotplug.Node`, `Hotplug.Node.open`
* `Hotplug.Node.read`: waits for input, then reads what is there.
* `Hotplug.Node.writeOnce`, `Hotplug.Node.writeBlocking`
-/

namespace Hotplug

/-- An open device node. -/
structure Node where
  /-- The path it was opened by. -/
  path : String
  /-- The descriptor. -/
  fd : Nat
  deriving DecidableEq, Repr

namespace Node

/-- Makes a call until it is not interrupted, at most so many times. -/
def uninterrupted (call : Action Kernel (Except Errno α)) :
    Nat → Action Kernel (Except Errno α)
  | 0 => Action.wait
  | more + 1 => do
    match ← call with
    | .error errno =>
      if errno = .interrupted then uninterrupted call more else return .error errno
    | .ok value => return .ok value

/-- Makes a call until it is not interrupted. `left` counts the answers that are given beforehand;
an object that answers by itself is never interrupted. -/
def restarting (left : CallScript → Nat) (call : Action Kernel (Except Errno α)) :
    Action Kernel (Except Errno α) := fun kernel =>
  uninterrupted call (left kernel.script + 1) kernel

/-- Opens the node at a path. -/
def open_ (path : String) : Action Kernel Node := do
  match ← Kernel.openNode path with
  | .ok fd => return ⟨path, fd⟩
  | .error error => Action.fail (.ofSystemError ("open('" ++ path ++ "')") error)

/-- The node as something to wait for. -/
def waitable (node : Node) : Waitable :=
  .fd node.fd

/-- The other end of the node is gone. -/
def hungUp (node : Node) : Failure :=
  .io ("'" ++ node.path ++ "' hung up")

/-- The failure of a read. -/
def readFailure (node : Node) (errno : Errno) : Failure :=
  if errno.isTransferError then .io ("I/O error while reading from '" ++ node.path ++ "'")
  else .system ("read('" ++ node.path ++ "') failed: " ++ errno.text)

/-- The failure of a write. -/
def writeFailure (node : Node) (errno : Errno) : Failure :=
  if errno.isTransferError then .io ("I/O error while writing to '" ++ node.path ++ "'")
  else .system ("write('" ++ node.path ++ "') failed: " ++ errno.text)

/-- Reads what is there, at most so many bytes. `waited` says that the node was found ready: then no
bytes mean that the other end is gone. -/
def readNow (node : Node) (length : Nat) (waited : Bool) : Action Kernel Bytes := do
  match ← restarting (·.reads.length) (Kernel.read node.fd length) with
  | .ok data =>
    if data.isEmpty ∧ waited ∧ length ≠ 0 then Action.fail node.hungUp else return data
  | .error errno =>
    if errno = .again then return []
    else Action.fail (node.readFailure errno)

/-- Waits for input until a limit runs out, then reads at most so many bytes. A limit of zero reads
at once. -/
def read (node : Node) (length : Nat) (limit : Int) : Action Kernel Bytes := do
  if limit = 0 then node.readNow length false
  else if ← Kernel.native.readable node.waitable limit then node.readNow length true
  else return []

/-- Writes once; answers how many bytes were taken. -/
def writeOnce (node : Node) (data : Bytes) : Action Kernel Nat := do
  match ← restarting (·.writes.length) (Kernel.write node.fd data) with
  | .ok count => return count
  | .error errno =>
    if errno = .again then return 0
    else Action.fail (node.writeFailure errno)

/-- Writes until bytes are taken, at most so many times, and waits for room in between. -/
def writeAttempts (node : Node) (data : Bytes) : Nat → Action Kernel Nat
  | 0 => Action.wait
  | more + 1 => do
    let count ← node.writeOnce data
    if count ≠ 0 then return count
    else
      let _ ← Kernel.native.writable node.waitable (-1)
      node.writeAttempts data more

/-- Writes until at least one byte is taken; answers how many were. -/
def writeBlocking (node : Node) (data : Bytes) : Action Kernel Nat :=
  if data.isEmpty then return 0
  else fun kernel => node.writeAttempts data (kernel.script.writes.length + 1) kernel

end Node

end Hotplug
