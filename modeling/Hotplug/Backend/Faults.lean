import Hotplug.Backend.Memory
/-!
# Plans of faults

Several faults to be produced by devices in memory, in order.

## Main definitions

* `Hotplug.FaultPlan`, `Hotplug.FaultPlan.apply`
* `Hotplug.FaultPlan.vanishedOnOpen`, `Hotplug.FaultPlan.unpluggedMidTransfer`,
  `Hotplug.FaultPlan.lostNotifications`: plans for common accidents.
-/

namespace Hotplug

/-- Faults to be produced. -/
structure FaultPlan where
  /-- The faults, in order. -/
  faults : List Fault := []
  deriving DecidableEq, Repr

namespace FaultPlan

/-- Adds a fault at the end. -/
def fail (plan : FaultPlan) (operation : Operation) (code : Code) : FaultPlan :=
  ⟨plan.faults ++ [⟨operation, code⟩]⟩

/-- The device vanishes before it is opened. -/
def vanishedOnOpen : FaultPlan :=
  fail {} .openDevice .notFound

/-- The device is pulled out while it is used. -/
def unpluggedMidTransfer : FaultPlan :=
  (fail {} .read .io).fail .write .io

/-- Announcements are lost. -/
def lostNotifications : FaultPlan :=
  fail {} .drain .system

/-- Lets devices in memory produce the faults. -/
def apply (plan : FaultPlan) (memory : Memory) : Memory :=
  plan.faults.foldl Memory.failNext memory

end FaultPlan

end Hotplug
