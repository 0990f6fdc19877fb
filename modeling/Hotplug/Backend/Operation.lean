import Hotplug.Failure
/-!
# Operations of a backend

What a backend can be called for, as far as calls are counted and can be made to fail.

## Main definitions

* `Hotplug.Operation`
* `Hotplug.Fault`: a failure to be produced by an operation.
-/

namespace Hotplug

/-- An operation of a backend. -/
inductive Operation
  /-- List the devices. -/
  | enumerate
  /-- Begin to collect announcements. -/
  | subscribe
  /-- Deliver the announcements collected. -/
  | drain
  /-- Open a device. -/
  | openDevice
  /-- Read from a device. -/
  | read
  /-- Write to a device. -/
  | write
  /-- Give a serial line its coding. -/
  | configureSerial
  /-- Ask for the report descriptor. -/
  | reportDescriptor
  /-- Transfer a feature report. -/
  | featureReport
  deriving DecidableEq, Repr

namespace Operation

/-- Every operation. -/
def all : List Operation :=
  [enumerate, subscribe, drain, openDevice, read, write, configureSerial, reportDescriptor, featureReport]

/-- The name of the operation. -/
def name : Operation → String
  | enumerate => "enumerate"
  | subscribe => "subscribe"
  | drain => "drain"
  | openDevice => "open"
  | read => "read"
  | write => "write"
  | configureSerial => "configure_serial"
  | reportDescriptor => "report_descriptor"
  | featureReport => "feature_report"

/-- The operation with a given name. -/
def ofName? (text : String) : Option Operation :=
  all.find? (·.name == text)

/-- The name that the operation has in a failure of its own. -/
def title : Operation → String
  | enumerate => "Enumerate"
  | subscribe => "Subscribe"
  | drain => "Drain"
  | openDevice => "Open"
  | read => "Read"
  | write => "Write"
  | configureSerial => "ConfigureSerial"
  | reportDescriptor => "ReportDescriptor"
  | featureReport => "FeatureReport"

theorem ofName?_name (operation : Operation) : ofName? operation.name = some operation := by
  cases operation <;> decide

end Operation

/-- A failure to be produced by the next call of an operation. -/
structure Fault where
  operation : Operation
  /-- The kind of the failure. -/
  code : Code
  deriving DecidableEq, Repr

/-- The failure that the fault produces. -/
def Fault.failure (fault : Fault) : Failure :=
  ⟨fault.code, "mock " ++ fault.operation.title ++ " failure"⟩

end Hotplug
