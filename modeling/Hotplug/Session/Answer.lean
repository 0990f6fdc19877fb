import Hotplug.Backend.Operation
import Hotplug.Bytes
import Hotplug.Hid.Descriptor
import Hotplug.Hub.View
import Hotplug.Serial.Line
/-!
# Answers

What a command of a session answers.

## Main definitions

* `Hotplug.MonitorView`: what is told about a monitor.
* `Hotplug.Answer`
-/

namespace Hotplug

/-- What is told about a monitor. -/
structure MonitorView where
  /-- Its number. -/
  id : MonitorId
  /-- How many devices it knows. -/
  size : Nat
  /-- Which devices it is interested in. -/
  filter : Filter
  /-- Whether it can be waited for. -/
  valid : Bool
  /-- Whether announcements wait to be delivered. -/
  pending : Bool
  deriving DecidableEq, Repr

/-- What a command answers. -/
inductive Answer
  /-- There is nothing to say. -/
  | nothing
  /-- A slot that the command names is empty. -/
  | emptySlot (name : String)
  /-- Yes or no. -/
  | flag (value : Bool)
  | count (value : Nat)
  | text (value : String)
  /-- Bytes that a device was sent. -/
  | written (data : Bytes)
  /-- Bytes that were read: how many there were, and the bytes. -/
  | received (count : Nat) (data : Bytes)
  /-- How often each operation was called. -/
  | calls (counts : List (Operation × Nat))
  /-- Faults that were planned. -/
  | faults (faults : List Fault)
  /-- The line coding that a device was given last. -/
  | lineCoding (settings : Option Serial.Settings)
  /-- What a device is for. -/
  | usage (usage : Hid.Usage)
  | devices (devices : List DeviceView)
  | changes (changes : List ChangeView)
  /-- A device, if one was found. -/
  | device (device : Option DeviceView)
  /-- A monitor that was started. -/
  | started (id : MonitorId) (size : Nat) (name : String)
  /-- What is told about a monitor. -/
  | monitor (view : MonitorView)
  /-- A device for people. -/
  | summary (text : String) (online : Bool) (info : Info)
  /-- How two devices compare: one record, equal, of equal description. -/
  | comparison (sameRecord equal sameInfo : Bool)
  /-- A handle: its device, and whether input waits, if that can be told. -/
  | handle (device : DeviceView) (ready : Option Bool)
  /-- A set of descriptors that was made. -/
  | madeSet (capacity : Nat) (isEmpty : Bool)
  /-- Whether an entry is there, and what it stands for. -/
  | entry (isThere : Bool) (label : Option String)
  /-- All entries of a set. -/
  | entries (capacity : Nat) (entries : List (UInt32 × String))
  /-- The entries that are ready. -/
  | ready (ids : List UInt32)
  /-- The entries that are ready, and the most objects in one call. -/
  | readyWithin (ids : List UInt32) (largest : Nat)
  /-- The entries that a timed poll found ready, and its limit. -/
  | timed (limit : Int) (ids : List UInt32)
  deriving DecidableEq, Repr

end Hotplug
