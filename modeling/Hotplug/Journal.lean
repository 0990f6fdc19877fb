import Hotplug.Report
/-!
# The journal

Where failures and status messages go. A sink receives them; it can be exchanged. Failures of a
masked code are kept out. Masks count: every acquired mask has to be released once.

Whether a code is masked is decided where a failure comes about, and once for all. So whatever runs
sees the sink in place and the masks in force.

## Main definitions

* `Hotplug.Masks`: how often each code is masked.
* `Hotplug.Logging`: the sink and the masks, as they are seen by what runs.
* `Hotplug.Journal`: the sink in place, the masks and what was written so far.
* `Hotplug.Journal.record`: writes reports.
-/

namespace Hotplug

/-- How often each code is masked. The counts are 32-bit words. -/
structure Masks where
  /-- The count of a code. -/
  count : Code → UInt32

namespace Masks

/-- Nothing is masked. -/
def none : Masks :=
  ⟨fun _ => 0⟩

/-- Masks a code once more. -/
def acquire (masks : Masks) (code : Code) : Masks :=
  ⟨fun c => if c = code then masks.count c + 1 else masks.count c⟩

/-- Takes one mask of a code away; without one nothing changes. -/
def release (masks : Masks) (code : Code) : Masks :=
  ⟨fun c => if c = code ∧ masks.count c ≠ 0 then masks.count c - 1 else masks.count c⟩

/-- Whether failures of a code are kept out. -/
def isMasked (masks : Masks) (code : Code) : Bool :=
  masks.count code != 0

/-- Whether a report is let through. Only failures can be masked. -/
def lets (masks : Masks) : Report → Bool
  | .failure f => !masks.isMasked f.code
  | .status .. | .diagnostic _ => true

end Masks

/-- The sink in place and the masks in force. It is an instance argument of whatever can say something,
so each part of an action has that of the whole. -/
class Logging where
  /-- The name of the sink in place. -/
  sink : String
  /-- The masks in force. -/
  masks : Masks

namespace Logging

/-- Where nothing else is said, no code is masked. -/
instance clear : Logging where
  sink := ""
  masks := .none

/-- What gets through of a report: the report, or nothing if it is masked. -/
def pass [logging : Logging] (report : Report) : List Report :=
  [report].filter logging.masks.lets

end Logging

/-- One line of the journal. -/
structure Journal.Line where
  /-- The sink that received it. -/
  sink : String
  /-- How serious it is. -/
  level : Level
  /-- The code, of a failure. -/
  code : Option Code
  message : String
  deriving DecidableEq, Repr

/-- The journal: the sink in place, the masks, and what was written so far. -/
structure Journal where
  /-- The name of the sink in place. -/
  sink : String
  /-- The masks in force. -/
  masks : Masks := .none
  /-- What was written, oldest first. -/
  lines : List Journal.Line := []

namespace Journal

/-- What is seen of the journal while something runs. -/
abbrev logging (journal : Journal) : Logging where
  sink := journal.sink
  masks := journal.masks

/-- The line that a report gives a sink, if it gives one: diagnostics are not for sinks. -/
def line? (sink : String) : Report → Option Line
  | .status level message => some ⟨sink, level, none, message⟩
  | .failure f => some ⟨sink, .error, some f.code, f.message⟩
  | .diagnostic _ => none

/-- Writes what got through, in order. -/
def record (journal : Journal) (reports : List Report) : Journal :=
  { journal with lines := journal.lines ++ reports.filterMap (line? journal.sink) }

/-- Exchanges the sink. -/
def redirect (journal : Journal) (sink : String) : Journal :=
  { journal with sink }

/-- Masks a code once more. -/
def mask (journal : Journal) (code : Code) : Journal :=
  { journal with masks := journal.masks.acquire code }

/-- Takes one mask of a code away. -/
def unmask (journal : Journal) (code : Code) : Journal :=
  { journal with masks := journal.masks.release code }

/-- Masks every code of a list once for each time it occurs there. -/
def maskAll (journal : Journal) (codes : List Code) : Journal :=
  codes.foldl mask journal

/-- Undoes `maskAll`. -/
def unmaskAll (journal : Journal) (codes : List Code) : Journal :=
  codes.foldl unmask journal

end Journal

end Hotplug
