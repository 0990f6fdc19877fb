import Hotplug.Text.Quoted
/-!
# Devices

What is known of a device, and filters that choose among devices.

## Main definitions

* `Hotplug.Family`: human interface devices and serial ports.
* `Hotplug.Info`: everything known of one interface of a device.
* `Hotplug.Identity`: what tells one interface from another, with its order.
* `Hotplug.Filter`: which devices are of interest.
* `Hotplug.Status`: whether a device is still there.
-/

namespace Hotplug

/-- The family of a device, which fixes what can be done with it. -/
inductive Family
  /-- A human interface device, spoken to in reports. -/
  | hid
  /-- A serial port, spoken to in bytes. -/
  | serial
  deriving DecidableEq, Repr, Inhabited

namespace Family

/-- Every family. -/
def all : List Family :=
  [hid, serial]

/-- The name of the family. -/
def name : Family → String
  | hid => "hid"
  | serial => "serial"

/-- The family with a given name. -/
def ofName? (text : String) : Option Family :=
  all.find? (·.name == text)

/-- The name that the family has in a dump of a record. -/
def title : Family → String
  | hid => "Hid"
  | serial => "Serial"

theorem ofName?_name (family : Family) : ofName? family.name = some family := by
  cases family <;> decide

end Family

/-- Whether the device behind a record is still there. -/
inductive Status
  /-- The device was removed; a record never leaves this status. -/
  | disconnected
  /-- The device is there. -/
  | online
  deriving DecidableEq, Repr, Inhabited

namespace Status

/-- Every status. -/
def all : List Status :=
  [disconnected, online]

/-- The name of the status. -/
def name : Status → String
  | disconnected => "disconnected"
  | online => "online"

/-- The status with a given name. -/
def ofName? (text : String) : Option Status :=
  all.find? (·.name == text)

/-- The name that the status has in a dump of a record. -/
def title : Status → String
  | disconnected => "Disconnected"
  | online => "Online"

theorem ofName?_name (status : Status) : ofName? status.name = some status := by
  cases status <;> decide

end Status

/-- What is known of one interface of a device. -/
structure Info where
  /-- The identity key of the device, shared by its interfaces. -/
  key : String
  family : Family
  /-- Where on the bus the device sits. -/
  location : String := ""
  /-- Which interface of the device this is. -/
  interface : UInt8 := 0
  /-- The path of the device node. -/
  path : String
  /-- The vendor number. -/
  vid : UInt16
  /-- The product number. -/
  pid : UInt16
  /-- Who made it, if the device says so. -/
  manufacturer : Option String := none
  /-- What it is called, if the device says so. -/
  product : Option String := none
  /-- Its serial number, if the device says so. -/
  serialNumber : Option String := none
  deriving DecidableEq, Repr, Inhabited

/-- What tells one interface of a device from every other. -/
structure Identity where
  /-- The key of the device. -/
  key : String
  /-- The number of the interface. -/
  interface : UInt8
  deriving DecidableEq, Repr

namespace Identity

/-- Identities are ordered by key, then by interface. -/
def before (a b : Identity) : Bool :=
  a.key < b.key || (a.key == b.key && a.interface < b.interface)

end Identity

namespace Info

/-- The identity of the interface. -/
def identity (info : Info) : Identity :=
  ⟨info.key, info.interface⟩

/-- One line that names the device for people. -/
def summary (info : Info) : String :=
  info.family.name ++ " device '" ++ info.path ++ "' [" ++ Number.hex info.vid.toNat 4 ++ ":" ++
    Number.hex info.pid.toNat 4 ++ "] at " ++ info.location

/-- Every field with its name, for a dump of a record. -/
def dump (info : Info) : String :=
  "DeviceInfo \x7b key: " ++ Text.quote info.key ++
    ", device_type: " ++ info.family.title ++
    ", location: " ++ Text.quote info.location ++
    ", interface_number: " ++ toString info.interface ++
    ", path: " ++ Text.quote info.path ++
    ", vid: " ++ toString info.vid ++
    ", pid: " ++ toString info.pid ++
    ", manufacturer: " ++ Text.quoteOption info.manufacturer ++
    ", product: " ++ Text.quoteOption info.product ++
    ", serial_number: " ++ Text.quoteOption info.serialNumber ++ " \x7d"

end Info

/-- Which devices are of interest. A field that is absent lets every device pass. -/
structure Filter where
  /-- Only this family. -/
  family : Option Family := none
  /-- Only this vendor. -/
  vid : Option UInt16 := none
  /-- Only this product. -/
  pid : Option UInt16 := none
  deriving DecidableEq, Repr, Inhabited

namespace Filter

/-- The filter that every device passes. -/
def any : Filter :=
  {}

/-- Whether a device passes. -/
def passes (filter : Filter) (info : Info) : Bool :=
  filter.family.all (· == info.family) && filter.vid.all (· == info.vid) &&
    filter.pid.all (· == info.pid)

/-- Whether the filter lets a whole family pass before anything else is known. -/
def admits (filter : Filter) (family : Family) : Bool :=
  filter.family.all (· == family)

/-- A field of a filter, for a dump. -/
def dumpField (show_ : α → String) : Option α → String
  | none => "None"
  | some value => "Some(" ++ show_ value ++ ")"

/-- Every field with its name, for a dump of a monitor. -/
def dump (filter : Filter) : String :=
  "DeviceFilter \x7b device_type: " ++ dumpField Family.title filter.family ++
    ", vid: " ++ dumpField toString filter.vid ++
    ", pid: " ++ dumpField toString filter.pid ++ " \x7d"

theorem admits_of_passes {filter : Filter} {info : Info} (h : filter.passes info = true) :
    filter.admits info.family = true := by
  simp only [passes, Bool.and_eq_true] at h
  exact h.1.1

end Filter

/-- A change on the bus, as a platform announces it. -/
inductive Notice
  /-- An interface appeared. -/
  | added (info : Info)
  /-- A device vanished, with all its interfaces. -/
  | removed (key : String)
  deriving DecidableEq, Repr

end Hotplug
