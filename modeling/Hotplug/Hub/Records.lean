import Hotplug.Device
import Hotplug.Table
/-!
# Device records

A record stands for one appearance of a device interface. It is shared: whoever holds it counts as a
reference, and it is gone when the last reference is. A device that vanishes and comes back gets a
new record; the old one stays disconnected for good.

## Main definitions

* `Hotplug.DeviceRecord`, `Hotplug.RecordId`
* `Hotplug.Records`, with `create`, `retain`, `release`, `disconnect`
-/

namespace Hotplug

/-- The name of a record. Names are never used again. -/
abbrev RecordId := Nat

/-- The name of a monitor. Names are never used again. -/
abbrev MonitorId := Nat

/-- One appearance of a device interface, found through a backend of type `ω`. -/
structure DeviceRecord (ω : Type) where
  /-- What is known of the interface. -/
  info : Info
  /-- Whether the device is still there. -/
  status : Status := .online
  /-- The backend that knows the device. -/
  origin : ω
  /-- The monitor that made the record, if one did. -/
  monitor : Option MonitorId := none
  /-- How many references there are. -/
  refs : Nat := 1

/-- All records. -/
structure Records (ω : Type) where
  /-- The records by name. -/
  table : Table RecordId (DeviceRecord ω) := {}
  /-- The name of the next record. -/
  next : RecordId := 0

namespace Records

variable {ω : Type}

/-- The record of a name. -/
def get? (records : Records ω) (id : RecordId) : Option (DeviceRecord ω) :=
  records.table.get? id

/-- Makes a record, to which the maker has the only reference. -/
def create (records : Records ω) (info : Info) (origin : ω) (monitor : Option MonitorId) :
    RecordId × Records ω :=
  (records.next,
    { table := records.table.insert records.next { info, origin, monitor }
      next := records.next + 1 })

/-- Takes one more reference. -/
def retain (records : Records ω) (id : RecordId) : Records ω :=
  { records with table := records.table.update id fun r => { r with refs := r.refs + 1 } }

/-- Gives a reference back. With the last one the record is gone. -/
def release (records : Records ω) (id : RecordId) : Records ω :=
  match records.get? id with
  | none => records
  | some record =>
    if record.refs ≤ 1 then { records with table := records.table.erase id }
    else { records with table := records.table.update id fun r => { r with refs := r.refs - 1 } }

/-- Notes that the device is gone. -/
def disconnect (records : Records ω) (id : RecordId) : Records ω :=
  { records with table := records.table.update id fun r => { r with status := .disconnected } }

/-- Gives a reference to each record of a list back. -/
def releaseAll (records : Records ω) (ids : List RecordId) : Records ω :=
  ids.foldl release records

/-- Makes a record of each device, in order. -/
def createAll (records : Records ω) (origin : ω) (monitor : Option MonitorId) :
    List Info → List RecordId × Records ω
  | [] => ([], records)
  | info :: rest =>
    let (id, records) := records.create info origin monitor
    let (ids, records) := records.createAll origin monitor rest
    (id :: ids, records)

end Records

end Hotplug
