import Hotplug.Malformed
/-!
# Reports

What an operation says besides its result. Failures and status messages go to the journal;
diagnostics describe kernel data that was passed over.

## Main definitions

* `Hotplug.Level`, `Hotplug.Diagnostic`, `Hotplug.Report`
* `Hotplug.Report.diagnostics`: the diagnostics among some reports.
-/

namespace Hotplug

/-- How serious a journal record is. -/
inductive Level
  | debug | warning | error
  deriving DecidableEq, Repr

namespace Level

/-- Every level. -/
def all : List Level :=
  [debug, warning, error]

/-- The name of the level. -/
def name : Level → String
  | debug => "debug"
  | warning => "warning"
  | error => "error"

/-- The level with a given name. -/
def ofName? (text : String) : Option Level :=
  all.find? (·.name == text)

theorem ofName?_name (level : Level) : ofName? level.name = some level := by
  cases level <;> decide

end Level

/-- Kernel data that was passed over, and why. -/
inductive Diagnostic
  /-- The device has no node. -/
  | nodeMissing
  /-- The device's attributes make no sense. -/
  | deviceSkipped (reason : Malformed)
  /-- A message came from somebody who may not send it. -/
  | unexpectedSender
  /-- A message could not be decoded. -/
  | messageDropped (reason : Malformed)
  deriving DecidableEq, Repr

namespace Diagnostic

/-- What to tell people. -/
def message : Diagnostic → String
  | nodeMissing => "device node missing, skipping"
  | deviceSkipped _ => "skipping device"
  | unexpectedSender => "ignoring uevent from unexpected sender"
  | messageDropped _ => "dropping malformed uevent"

/-- The reason, where there is one. -/
def reason? : Diagnostic → Option Malformed
  | deviceSkipped reason | messageDropped reason => some reason
  | _ => none

end Diagnostic

/-- Something an operation says besides its result. -/
inductive Report
  /-- A message on how things stand. -/
  | status (level : Level) (message : String)
  /-- A failure came about. -/
  | failure (failure : Failure)
  /-- Kernel data was passed over. -/
  | diagnostic (diagnostic : Diagnostic)
  deriving DecidableEq, Repr

namespace Report

/-- The diagnostics among some reports, in order. -/
def diagnostics (reports : List Report) : List Diagnostic :=
  reports.filterMap fun
    | diagnostic d => some d
    | _ => none

end Report

end Hotplug
