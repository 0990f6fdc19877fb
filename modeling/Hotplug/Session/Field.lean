import Hotplug.Session.Desk
/-!
# Commands from outside

What is done to the devices themselves, and what they are asked behind the back of the library.

## Main definitions

* `Hotplug.FieldCommand`, `Hotplug.FieldCommand.run`
-/

namespace Hotplug

/-- A command that comes from outside. -/
inductive FieldCommand
  /-- Bring an interface in without a word. -/
  | attach (info : Info)
  /-- Bring an interface in. -/
  | plug (info : Info)
  /-- Take a device out. -/
  | unplug (key : String)
  /-- Let a device send input. -/
  | inject (path : String) (data : Bytes)
  /-- Set the report descriptor of a device. -/
  | setReportDescriptor (path : String) (descriptor : Bytes)
  /-- Let the next call of an operation fail. -/
  | failNext (fault : Fault)
  /-- Let operations fail as planned. -/
  | failAs (plan : FaultPlan)
  /-- Tell how often each operation was called. -/
  | calls
  /-- Tell what a device was sent. -/
  | written (path : String)
  /-- Tell the line coding that a device was given last. -/
  | lineCoding (path : String)
  /-- Set the script of the scripted backend. -/
  | setScript (script : BackendScript)
  deriving DecidableEq, Repr

namespace FieldCommand

/-- Runs a command. -/
def run : FieldCommand → Action Desk Answer
  | attach info => do
    Desk.onMemory (·.attach info)
    return .nothing
  | plug info => do
    Desk.onMemory (·.plug info)
    return .nothing
  | unplug key => do
    Desk.onMemory (·.unplug key)
    return .nothing
  | inject path data => do
    Desk.onMemory (·.inject path data)
    return .nothing
  | setReportDescriptor path descriptor => do
    Desk.onMemory (·.setReportDescriptor path descriptor)
    return .nothing
  | failNext fault => do
    Desk.onMemory (·.failNext fault)
    return .nothing
  | failAs plan => do
    Desk.onMemory plan.apply
    return .faults plan.faults
  | calls => do
    let memory := (← Action.get).memory
    return .calls (Operation.all.map fun operation => (operation, memory.callCount operation))
  | written path => do
    return .written ((← Action.get).memory.device path).written
  | lineCoding path => do
    return .lineCoding ((← Action.get).memory.device path).settings
  | setScript script => do
    Action.modify fun desk =>
      { desk with
        hub := { desk.hub with platform := desk.hub.platform.mapSecond (·.mapFirst fun _ => script) } }
    return .nothing

end FieldCommand

end Hotplug
