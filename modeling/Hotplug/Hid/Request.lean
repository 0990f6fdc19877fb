/-!
# Control requests of HID nodes

A control request on a device node is a 32-bit number: the direction in bits 30 and 31, the size of
the argument in bits 16 to 29, the type in bits 8 to 15 and the number in bits 0 to 7.

## Main definitions

* `Hotplug.Hid.Request`, `Hotplug.Hid.Request.code`
* `Hotplug.Hid.Request.setFeature`, `Hotplug.Hid.Request.getFeature`
-/

namespace Hotplug.Hid

/-- The direction of a request that reads. -/
def readDirection : UInt32 := 2

/-- The direction of a request that writes and reads. -/
def bothDirections : UInt32 := 3

/-- The largest report descriptor. -/
def maxDescriptorSize : Nat := 4096

/-- The largest argument that fits the size field. -/
def maxRequestSize : Nat := 16383

/-- A control request. -/
structure Request where
  /-- The number that the kernel receives. -/
  code : UInt32
  deriving DecidableEq, Repr

namespace Request

/-- The type of all HID requests, the letter `H`. -/
def hidType : UInt32 := 0x48

/-- Builds a request. The size is not checked: what exceeds its field runs into the direction. -/
def build (direction number size : UInt32) : Request :=
  ⟨(direction <<< 30) ||| (size <<< 16) ||| (hidType <<< 8) ||| number⟩

/-- Asks for the size of the report descriptor. -/
def descriptorSize : Request :=
  build readDirection 1 4

/-- Asks for the report descriptor. -/
def descriptor : Request :=
  build readDirection 2 4100

/-- Sends a feature report of so many bytes. -/
def setFeature (size : Nat) : Request :=
  build bothDirections 6 (.ofNat size)

/-- Asks for a feature report of at most so many bytes. -/
def getFeature (size : Nat) : Request :=
  build bothDirections 7 (.ofNat size)

/-- The size field. -/
def size (request : Request) : Nat :=
  (request.code >>> 16 &&& 0x3FFF).toNat

/-- The direction field. -/
def direction (request : Request) : UInt32 :=
  request.code >>> 30

/-- The type field. -/
def type (request : Request) : UInt32 :=
  request.code >>> 8 &&& 0xFF

/-- The number field. -/
def number (request : Request) : UInt32 :=
  request.code &&& 0xFF

/-- What the request is called. -/
def name (request : Request) : String :=
  if request = descriptorSize then "HIDIOCGRDESCSIZE"
  else if request = descriptor then "HIDIOCGRDESC"
  else if request.number = 6 then "HIDIOCSFEATURE"
  else "HIDIOCGFEATURE"

end Request

end Hotplug.Hid
