import Hotplug.Journal
import Hotplug.Session.Field
import Hotplug.Session.Handles
import Hotplug.Session.Registry
import Hotplug.Session.Sets
/-!
# Sessions

A desk together with the journal into which it writes. Commands are given one after another; each has
an answer and may add lines to the journal.

A command on the desk runs with the sink and the masks of the journal before it, and what gets through
is written. Commands on the journal never touch the desk.

## Main definitions

* `Hotplug.DeskCommand`, `Hotplug.JournalCommand`, `Hotplug.Command`
* `Hotplug.Session`, `Hotplug.Session.perform`
* `Hotplug.Session.performAll`
-/

namespace Hotplug

/-- A command on the desk. -/
inductive DeskCommand
  /-- A command from outside. -/
  | field (command : FieldCommand)
  /-- A command on registries. -/
  | registry (command : RegistryCommand)
  /-- A command on records. -/
  | record (command : RecordCommand)
  /-- A command on handles. -/
  | handle (command : HandleCommand)
  /-- A command on sets. -/
  | set (command : SetCommand)
  /-- Say something. -/
  | say (level : Level) (message : String)
  | fail (failure : Failure)
  deriving DecidableEq, Repr

/-- Runs a command on the desk. -/
def DeskCommand.run : DeskCommand → Action Desk Answer
  | field command => command.run
  | registry command => command.run
  | record command => command.run
  | handle command => command.run
  | set command => command.run
  | say level message => do
    Action.say (.status level message)
    return .nothing
  | fail failure => Action.fail failure

/-- A command on the journal. -/
inductive JournalCommand
  /-- Exchange the sink. -/
  | redirect (sink : String)
  /-- Mask a code once more. -/
  | mask (code : Code)
  /-- Take one mask of a code away. -/
  | unmask (code : Code)
  /-- Tell whether a code is masked. -/
  | isMasked (code : Code)
  /-- Mask a code until a guard is dropped. -/
  | guard (slot : String) (code : Code)
  /-- Drop a guard. -/
  | dropGuard (slot : String)
  /-- Mask the codes of a list. -/
  | maskAll (codes : List Code)
  /-- Take one mask of each code of a list away. -/
  | unmaskAll (codes : List Code)
  deriving DecidableEq, Repr

/-- A journal with guards in named slots. Each holds one mask. -/
structure GuardedJournal where
  journal : Journal
  /-- The codes that the guards mask. -/
  guards : Table String Code := {}

namespace GuardedJournal

/-- Changes the journal. -/
def onJournal (f : Journal → Journal) (g : GuardedJournal) : GuardedJournal :=
  { g with journal := f g.journal }

/-- Lays a guard into a slot. One that was there is dropped afterwards. -/
def guard (g : GuardedJournal) (slot : String) (code : Code) : GuardedJournal :=
  let masked := g.journal.mask code
  { journal := match g.guards.get? slot with
      | none => masked
      | some old => masked.unmask old
    guards := g.guards.insert slot code }

/-- Drops the guard in a slot. -/
def dropGuard (g : GuardedJournal) (slot : String) : GuardedJournal :=
  match g.guards.get? slot with
  | none => g
  | some code => { journal := g.journal.unmask code, guards := g.guards.erase slot }

end GuardedJournal

/-- Runs a command on the journal. -/
def JournalCommand.run (g : GuardedJournal) : JournalCommand → Answer × GuardedJournal
  | redirect sink => (.nothing, g.onJournal (·.redirect sink))
  | mask code => (.nothing, g.onJournal (·.mask code))
  | unmask code => (.nothing, g.onJournal (·.unmask code))
  | isMasked code => (.flag (g.journal.masks.isMasked code), g)
  | guard slot code => (.nothing, g.guard slot code)
  | dropGuard slot => (.flag (g.guards.contains slot), g.dropGuard slot)
  | maskAll codes => (.nothing, g.onJournal (·.maskAll codes))
  | unmaskAll codes => (.nothing, g.onJournal (·.unmaskAll codes))

/-- A command of a session. -/
inductive Command
  /-- A command on the desk. -/
  | desk (command : DeskCommand)
  /-- A command on the journal. -/
  | journal (command : JournalCommand)
  deriving DecidableEq, Repr

/-- A desk with a journal. -/
structure Session where
  desk : Desk := {}
  /-- The journal. -/
  log : GuardedJournal := ⟨{ sink := "a" }, {}⟩

namespace Session

/-- Performs a command. -/
def perform (session : Session) : Command → Ending Answer × Session
  | .desk command =>
    let out := command.run.under session.log.journal.logging session.desk
    (out.ending, { desk := out.state, log := session.log.onJournal (·.record out.reports) })
  | .journal command =>
    let (answer, log) := command.run session.log
    (.returned answer, { session with log })

/-- Performs commands, one after another. -/
def performAll (session : Session) : List Command → List (Ending Answer) × Session
  | [] => ([], session)
  | command :: rest =>
    let (answer, session) := session.perform command
    let (answers, session) := session.performAll rest
    (answer :: answers, session)

end Session

end Hotplug
