import Hotplug.Device
import Hotplug.Bytes
/-!
# Sample devices

Realistic descriptions of devices on the ports of a bus.

## Main definitions

* `Hotplug.Sample.key`, `Hotplug.Sample.serial`, `Hotplug.Sample.hid`
* `Hotplug.Sample.reportDescriptor`
-/

namespace Hotplug.Sample

/-- The vendor. -/
def vendor : UInt16 := 0x16c0

/-- The key of the device on a port. -/
def key (port : UInt8) : String :=
  "/devices/pci0000:00/0000:00:14.0/usb1/1-" ++ toString port

/-- The place of a port on the bus. -/
def location (port : UInt8) : String :=
  "usb-1-" ++ toString port

/-- A number with zeros in front, up to a width. -/
def padded (width number : Nat) : String :=
  let digits := toString number
  String.ofList (List.replicate (width - digits.length) '0') ++ digits

/-- The serial port on a port of the bus. -/
def serial (port : UInt8) : Info where
  key := key port
  family := .serial
  location := location port
  path := "/dev/ttyACM" ++ toString port
  vid := vendor
  pid := 0x0483
  manufacturer := some "Teensyduino"
  product := some "USB Serial"
  serialNumber := some (padded 8 (port.toNat * 1111))

/-- A human interface device on a port of the bus. -/
def hid (port interface : UInt8) : Info where
  key := key port
  family := .hid
  location := location port
  interface := interface
  path := "/dev/hidraw" ++ toString (port.toNat * 4 + interface.toNat)
  vid := vendor
  pid := 0x0486
  manufacturer := some "Teensyduino"
  product := some "RawHID"

/-- The report descriptor of a vendor-defined interface, with usage page 0xFFAB and usage 0x0200 and
reports of 64 bytes in both directions. -/
def reportDescriptor : Bytes :=
  [0x06, 0xAB, 0xFF,
   0x0A, 0x00, 0x02,
   0xA1, 0x01,
   0x75, 0x08,
   0x15, 0x00,
   0x26, 0xFF, 0x00,
   0x95, 0x40,
   0x09, 0x01,
   0x81, 0x02,
   0x95, 0x40,
   0x09, 0x02,
   0x91, 0x02,
   0xC0]

end Hotplug.Sample
