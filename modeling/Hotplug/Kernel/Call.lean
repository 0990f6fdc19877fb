import Hotplug.Bytes
import Hotplug.Errno
import Hotplug.Hid.Request
import Hotplug.Serial.Terminal
/-!
# System calls

The calls that are made on the kernel, and answers given to them beforehand.

## Main definitions

* `Hotplug.Syscall`: one call with its arguments.
* `Hotplug.CallScript`: the answers left for each kind of call.
-/

namespace Hotplug

/-- One system call with its arguments. -/
inductive Syscall
  | read (length : Nat)
  | write (data : Bytes)
  | poll (events : Nat) (limit : Int)
  | control (request : Hid.Request) (argument : Bytes)
  | getTerminal
  | setTerminal (action : Nat) (terminal : Serial.Terminal)
  | socket (domain type protocol : Nat)
  | bind (port groups : Nat)
  deriving DecidableEq, Repr

/-- The answer to a control request: its value, and bytes stored at the argument. -/
structure ControlReply where
  value : Nat := 0
  /-- What is stored, from the start of the argument. -/
  stored : Bytes := []
  deriving DecidableEq, Repr

/-- A message received from a socket. -/
structure Datagram where
  message : Bytes
  /-- Port and groups of the sender, if its address is known. -/
  sender : Option (UInt32 × UInt32)
  deriving DecidableEq, Repr

/-- Answers to system calls, given beforehand and used in order. -/
structure CallScript where
  /-- Answers to reads: the bytes that are there. -/
  reads : List (Except Errno Bytes) := []
  /-- Answers to writes: how many bytes are taken. -/
  writes : List (Except Errno Nat) := []
  /-- Answers to waits: the events found. -/
  polls : List (Except Errno Nat) := []
  /-- How long waits take before they are answered, in nanoseconds. Those not listed take no time. -/
  pauses : List Nat := []
  /-- Answers to control requests. -/
  controls : List (Except Errno ControlReply) := []
  /-- Answers to questions for terminal attributes. -/
  terminals : List (Except Errno Serial.Terminal) := []
  /-- Answers to changes of terminal attributes. -/
  settings : List (Except Errno Unit) := []
  /-- Answers to the making of a socket. -/
  sockets : List (Except Errno Unit) := []
  /-- Answers to the binding of a socket. -/
  binds : List (Except Errno Unit) := []
  /-- Answers to receptions. -/
  receptions : List (Except Errno Datagram) := []

/-- The next of some answers; when they are used up, the one given. -/
def nextAnswer (default_ : Except Errno α) : List (Except Errno α) → Except Errno α
  | [] => default_
  | answer :: _ => answer

end Hotplug
