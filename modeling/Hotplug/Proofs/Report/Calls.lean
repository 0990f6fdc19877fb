import Mathlib.Data.List.Basic
import Hotplug.Config.Load
import Hotplug.Proofs.Report.Hub
import Hotplug.Session.Basic
/-!
# Every failure is in the journal once

The calls that the library offers, and the lines that they write into a journal. A call that fails
writes one line, with the code and the message of its failure, unless the code is masked. A call that
returns a value writes none. Debug messages do not count here.

Two calls return a value and say something all the same. A refresh goes on after a delivery that was
cut short, and a caller may put a status message of any level into the journal.

## Main definitions

* `Hotplug.Journal.alerts`: the lines above debug messages.
* `Hotplug.HubCall`, `Hotplug.PlatformCall`, `Hotplug.WaitingCall`, `Hotplug.CheckCall`,
  `Hotplug.Call`: the calls.

## Main statements

* `Hotplug.Call.candid`: what a call says, by the way in which it ends.
* `Hotplug.Call.reported_once`: what every call, refresh and delivery writes.
-/

namespace Hotplug

open Hotplug.Action

variable {σ α : Type}

/-! ### The journal -/

namespace Journal

/-- Whether a line is above debug messages. -/
def Line.isAlert (line : Line) : Bool :=
  line.level != .debug

/-- The lines above debug messages, oldest first. -/
def alerts (journal : Journal) : List Line :=
  journal.lines.filter Line.isAlert

/-- The line of a failure, unless its code is masked. -/
def failureLines (journal : Journal) (failure : Failure) : List Line :=
  if journal.masks.isMasked failure.code then []
  else [⟨journal.sink, .error, some failure.code, failure.message⟩]

/-- The lines of the failure with which an operation ends. -/
def endingLines (journal : Journal) : Ending α → List Line
  | .failed failure => journal.failureLines failure
  | _ => []

/-- The lines that some reports give, if they come about while this is the journal. -/
def linesOf (journal : Journal) (reports : List Report) : List Line :=
  (reports.filter journal.masks.lets).filterMap (line? journal.sink)

/-- A report gives a line above debug messages exactly if it is above them, and gives a line. -/
theorem filter_line? (sink : String) (report : Report) :
    (line? sink report).filter Line.isAlert = if report.isAlert then line? sink report else none := by
  cases report with
  | status level _ => cases level <;> rfl
  | failure f => rfl
  | diagnostic _ => rfl

theorem alerts_record (journal : Journal) (reports : List Report) :
    (journal.record reports).alerts =
      journal.alerts ++ (Report.alerts reports).filterMap (line? journal.sink) := by
  simp only [alerts, record, List.filter_append, Report.alerts, List.filter_filterMap,
    List.filterMap_filter, filter_line?]

/-- Masks hide before the journal is written, and debug messages do not count after. The order of the two
makes no difference. -/
theorem alerts_record_filter (journal : Journal) (reports : List Report) :
    (journal.record (reports.filter journal.masks.lets)).alerts =
      journal.alerts ++ journal.linesOf (Report.alerts reports) := by
  rw [alerts_record, linesOf, Report.alerts, Report.alerts, List.filter_comm]

theorem linesOf_append (journal : Journal) (a b : List Report) :
    journal.linesOf (a ++ b) = journal.linesOf a ++ journal.linesOf b := by
  rw [linesOf, List.filter_append, List.filterMap_append, linesOf, linesOf]

theorem linesOf_failure (journal : Journal) (failure : Failure) :
    journal.linesOf [.failure failure] = journal.failureLines failure := by
  cases hmasked : journal.masks.isMasked failure.code <;>
    simp [linesOf, Masks.lets, line?, failureLines, hmasked]

/-- The lines of what a candid action says when it ends. -/
theorem linesOf_alerts (journal : Journal) (ending : Ending α) :
    journal.linesOf ending.alerts = journal.endingLines ending := by
  cases ending with
  | returned _ => rfl
  | failed failure => exact journal.linesOf_failure failure
  | unending => rfl

end Journal

/-! ### Calls -/

/-- A call of a hub, refreshes apart. -/
inductive HubCall (σ : Type) [Platform σ] : Type → Type
  | enumerate (origin : Platform.Origin σ) (filter : Filter) : HubCall σ (List RecordId)
  | watch (origin : Platform.Origin σ) (filter : Filter) : HubCall σ MonitorId
  | unwatch (id : MonitorId) : HubCall σ Unit
  | view (id : RecordId) : HubCall σ DeviceView
  | viewDevices (id : MonitorId) : HubCall σ (List DeviceView)
  | open_ (id : RecordId) : HubCall σ HandleId
  | close (id : HandleId) : HubCall σ Unit
  | setAttributes (id : HandleId) (bps : UInt32) (flags : Serial.Flags) : HubCall σ Unit
  | serialRead (id : HandleId) (room : Nat) (limit : Int) : HubCall σ Bytes
  | serialWrite (id : HandleId) (data : Bytes) : HubCall σ Nat
  | hidRead (id : HandleId) (room : Nat) (limit : Int) : HubCall σ Bytes
  | hidWrite (id : HandleId) (report : Bytes) : HubCall σ Nat
  | sendFeature (id : HandleId) (report : Bytes) : HubCall σ Nat
  | getFeature (id : HandleId) (number : UInt8) (buffer : Bytes) : HubCall σ (Nat × Bytes)
  | usage (id : HandleId) : HubCall σ Hid.Usage

/-- Runs a call of a hub. -/
def HubCall.run [Platform σ] : HubCall σ α → Action (Hub σ) α
  | enumerate origin filter => Hub.enumerate origin filter
  | watch origin filter => Hub.watch origin filter
  | unwatch id => Hub.unwatch id
  | view id => Hub.view id
  | viewDevices id => Hub.viewDevices id
  | open_ id => Hub.open_ id
  | close id => Hub.close id
  | setAttributes id bps flags => Hub.setAttributes id bps flags
  | serialRead id room limit => Hub.serialRead id room limit
  | serialWrite id data => Hub.serialWrite id data
  | hidRead id room limit => Hub.hidRead id room limit
  | hidWrite id report => Hub.hidWrite id report
  | sendFeature id report => Hub.sendFeature id report
  | getFeature id number buffer => Hub.getFeature id number buffer
  | usage id => Hub.usage id

theorem HubCall.candid [Platform σ] (h : Platform.Candid σ) (call : HubCall σ α) :
    call.run.Candid := by
  cases call with
  | enumerate origin filter => exact Hub.candid_enumerate h origin filter
  | watch origin filter => exact Hub.candid_watch h origin filter
  | unwatch id => exact Hub.candid_unwatch id
  | view id => exact Hub.candid_view id
  | viewDevices id =>
    exact .bind (Hub.candid_monitor id) fun _ => .mapM Hub.candid_view
  | open_ id => exact Hub.candid_open h id
  | close id => exact Hub.candid_close id
  | setAttributes id bps flags => exact Hub.candid_setAttributes h id bps flags
  | serialRead id room limit => exact Hub.candid_serialRead h id room limit
  | serialWrite id data => exact Hub.candid_serialWrite h id data
  | hidRead id room limit => exact Hub.candid_hidRead h id room limit
  | hidWrite id report => exact Hub.candid_hidWrite h id report
  | sendFeature id report => exact Hub.candid_sendFeature h id report
  | getFeature id number buffer => exact Hub.candid_getFeature h id number buffer
  | usage id => exact Hub.candid_usage h id

/-- A call of a platform, deliveries apart. -/
inductive PlatformCall (σ : Type) [Platform σ] : Type → Type
  | enumerate (origin : Platform.Origin σ) (filter : Filter) : PlatformCall σ (List Info)
  | subscribe (origin : Platform.Origin σ) (filter : Filter) : PlatformCall σ (Platform.Source σ)
  | unsubscribe (source : Platform.Source σ) : PlatformCall σ Unit
  | openChannel (origin : Platform.Origin σ) (info : Info) : PlatformCall σ (Platform.Channel σ)
  | closeChannel (channel : Platform.Channel σ) : PlatformCall σ Unit
  | read (channel : Platform.Channel σ) (room : Nat) (limit : Int) : PlatformCall σ Bytes
  | write (channel : Platform.Channel σ) (data : Bytes) : PlatformCall σ Nat
  | configure (channel : Platform.Channel σ) (settings : Serial.Settings) : PlatformCall σ Unit
  | reportDescriptor (channel : Platform.Channel σ) : PlatformCall σ Bytes
  | sendFeature (channel : Platform.Channel σ) (report : Bytes) : PlatformCall σ Nat
  | getFeature (channel : Platform.Channel σ) (number : UInt8) (buffer : Bytes) :
    PlatformCall σ (Nat × Bytes)
  | readable (target : Waitable) (limit : Int) : PlatformCall σ Bool
  | writable (target : Waitable) (limit : Int) : PlatformCall σ Bool

/-- Runs a call of a platform. -/
def PlatformCall.run [Platform σ] : PlatformCall σ α → Action σ α
  | enumerate origin filter => Platform.enumerate origin filter
  | subscribe origin filter => Platform.subscribe origin filter
  | unsubscribe source => Action.modify (Platform.unsubscribe source)
  | openChannel origin info => Platform.openChannel origin info
  | closeChannel channel => Action.modify (Platform.closeChannel channel)
  | read channel room limit => Platform.read channel room limit
  | write channel data => Platform.write channel data
  | configure channel settings => Platform.configure channel settings
  | reportDescriptor channel => Platform.reportDescriptor channel
  | sendFeature channel report => Platform.sendFeature channel report
  | getFeature channel number buffer => Platform.getFeature channel number buffer
  | readable target limit => Platform.native.readable target limit
  | writable target limit => Platform.native.writable target limit

theorem PlatformCall.candid [Platform σ] (h : Platform.Candid σ) (call : PlatformCall σ α) :
    call.run.Candid := by
  cases call with
  | enumerate origin filter => exact h.enumerate origin filter
  | subscribe origin filter => exact h.subscribe origin filter
  | unsubscribe source => exact .modify
  | openChannel origin info => exact h.openChannel origin info
  | closeChannel channel => exact .modify
  | read channel room limit => exact h.read channel room limit
  | write channel data => exact h.write channel data
  | configure channel settings => exact h.configure channel settings
  | reportDescriptor channel => exact h.reportDescriptor channel
  | sendFeature channel report => exact h.sendFeature channel report
  | getFeature channel number buffer => exact h.getFeature channel number buffer
  | readable target limit => exact NativeWait.candid_readable h.native target limit
  | writable target limit => exact NativeWait.candid_writable h.native target limit

/-- A wait for several objects. -/
inductive WaitingCall : Type → Type
  | waitAll (objects : List Waitable) (limit slice : Int) : WaitingCall (List Nat)
  | poll (set : DescriptorSet) (limit : Int) : WaitingCall (List UInt32)

/-- Runs a wait through a primitive. -/
def WaitingCall.run (p : Primitive σ) : WaitingCall α → Action σ α
  | waitAll objects limit slice => p.waitAll objects limit slice
  | poll set limit => set.pollWith p limit

theorem WaitingCall.candid {p : Primitive σ} (h : p.Candid) (call : WaitingCall α) :
    (call.run p).Candid := by
  cases call with
  | waitAll objects limit slice => exact Primitive.candid_waitAll h objects limit slice
  | poll set limit => exact DescriptorSet.candid_pollWith h set limit

/-- A check of values. -/
inductive CheckCall : Type → Type
  | addEntry (set : DescriptorSet) (id : UInt32) (target : Waitable) : CheckCall DescriptorSet
  | lineFlags (flags : Serial.Flags) : CheckCall Unit
  | lineSettings (bps : UInt32) (flags : Serial.Flags) : CheckCall Serial.Settings
  | configuration (config : Config) : CheckCall Unit
  | configurationOf (text : String) : CheckCall Config
  | configurationIn (tree : FileTree) (path : String) : CheckCall Config

/-- What a check finds. -/
def CheckCall.result : CheckCall α → Except Failure α
  | addEntry set id target => (set.add id target).mapError (·.failure)
  | lineFlags flags => flags.check.mapError (·.failure)
  | lineSettings bps flags => (Serial.Settings.ofFlags bps flags).mapError (·.failure)
  | configuration config => config.check.mapError (·.failure)
  | configurationOf text => (Config.ofText text).mapError (·.failure)
  | configurationIn tree path => Config.load tree path

/-- A call that the library offers, refreshes, deliveries and status messages apart. -/
inductive Call : Type → Type → Type 1
  /-- A call of a hub. -/
  | hub (make : Make) (call : HubCall make.State β) : Call (Hub make.State) β
  /-- A call of a platform. -/
  | platform (make : Make) (call : PlatformCall make.State β) : Call make.State β
  /-- A wait for objects of a platform. -/
  | waiting (make : Make) (call : WaitingCall β) : Call make.State β
  /-- A wait with at most so many objects at once. -/
  | waitingWithin (make : Make) (most : Nat) (call : WaitingCall β) : Call (make.State × Nat) β
  /-- A wait whose answers are given beforehand. -/
  | waitingScripted (most : Option Nat) (call : WaitingCall β) : Call WaitScript β
  /-- A look at the device tree. -/
  | tree (sysfs : Sysfs) (filter : Filter) : Call FileTree (List Info)
  /-- A look at one device in the device tree. -/
  | treeDevice (sysfs : Sysfs) (devpath : String) (family : Family) : Call FileTree (Option Info)
  /-- A check of values. -/
  | check (call : CheckCall β) : Call τ β
  /-- The making of a failure. -/
  | fail (failure : Failure) : Call τ β
  /-- What is done to devices in memory from outside. -/
  | outside (change : Memory → Memory) : Call Memory Unit

namespace Call

/-- Runs a call. -/
def run : Call σ α → Action σ α
  | hub _ call => call.run
  | platform _ call => call.run
  | waiting _ call => call.run Platform.native.toPrimitive
  | waitingWithin _ most call => call.run (Platform.native.toPrimitive.limited most)
  | waitingScripted most call => call.run (WaitScript.primitive most)
  | tree sysfs filter => sysfs.enumerate filter
  | treeDevice sysfs devpath family => sysfs.deviceAt devpath family
  | check call => Action.require call.result
  | fail failure => Action.fail failure
  | outside change => Action.modify change

/-- A call says of the failure with which it ends, once, and of nothing else. -/
theorem candid (call : Call σ α) : call.run.Candid := by
  cases call with
  | hub make call => exact call.candid make.candid
  | platform make call => exact call.candid make.candid
  | waiting make call => exact call.candid make.candid.native.call
  | waitingWithin make most call => exact call.candid (make.candid.native.call.limited most)
  | waitingScripted most call => exact call.candid (WaitScript.candid_primitive most)
  | tree sysfs filter => exact sysfs.candid_enumerate filter
  | treeDevice sysfs devpath family => exact sysfs.candid_deviceAt devpath family
  | check call => exact .require call.result
  | fail failure => exact .fail
  | outside change => exact .modify

end Call

/-! ### What is in the journal -/

/-- What an action writes is what it tells, less what is masked. -/
theorem Action.Tells.alerts_record {action : Action σ α} {account : Ending α → List Report}
    (h : action.Tells account) (state : σ) (journal : Journal) :
    let out := action.under journal.logging state
    (journal.record out.reports).alerts = journal.alerts ++ journal.linesOf (account out.ending) := by
  dsimp only
  rw [h.blind journal.logging state]
  exact (journal.alerts_record_filter _).trans (congrArg (_ ++ journal.linesOf ·) (h.said state))

/-- A candid action writes the line of the failure with which it ends. -/
theorem Action.Candid.alerts_record {action : Action σ α} (h : action.Candid) (state : σ)
    (journal : Journal) :
    let out := action.under journal.logging state
    (journal.record out.reports).alerts = journal.alerts ++ journal.endingLines out.ending :=
  (Tells.alerts_record h state journal).trans (congrArg (_ ++ ·) (journal.linesOf_alerts _))

/-- What a refresh writes after a delivery that was cut short, or was not. -/
theorem Hub.alerts_record_refresh [Platform σ] (h : Platform.Candid σ) (hub : Hub σ)
    (id : MonitorId) (journal : Journal) :
    let out := (refresh id).under journal.logging hub
    match hub.cutShort? id with
    | none => (journal.record out.reports).alerts = journal.alerts ++ journal.endingLines out.ending
    | some (count, failure) =>
      out.ending.isReturned = true ∧
        (journal.record out.reports).alerts = journal.alerts ++ journal.failureLines failure ++
          [⟨journal.sink, .warning, none, cutShortWarning id count failure⟩] := by
  obtain ⟨hsaid, hreturned⟩ := alerts_refresh h hub id
  have hrecord := journal.alerts_record_filter ((refresh id).run hub).reports
  rw [hsaid] at hrecord
  rw [blind_refresh h id journal.logging hub]
  cases hcut : hub.cutShort? id with
  | none =>
    rw [hcut] at hrecord
    exact hrecord.trans (congrArg (_ ++ ·) (journal.linesOf_alerts _))
  | some cut =>
    -- The line of the failure may be masked; that of the warning never is.
    rw [hcut] at hrecord hreturned
    refine ⟨hreturned rfl, hrecord.trans ?_⟩
    rw [refreshAlerts, ← List.singleton_append, journal.linesOf_append, journal.linesOf_failure,
      List.append_assoc]
    rfl

/-- What a delivery writes. -/
theorem Platform.Candid.alerts_record_drain [Platform σ] (h : Platform.Candid σ)
    (source : Platform.Source σ) (state : σ) (journal : Journal) :
    let out := (Platform.drain source).under journal.logging state
    (journal.record out.reports).alerts = journal.alerts ++
      match out.ending with
      | .returned drained => (drained.failure.map journal.failureLines).getD []
      | ending => journal.endingLines ending := by
  refine ((h.drain source).alerts_record state journal).trans (congrArg (journal.alerts ++ ·) ?_)
  cases ((Platform.drain source).under journal.logging state).ending with
  | returned drained =>
    cases hfailure : drained.failure with
    | none => simp [Ending.alertsWith, hfailure, Journal.linesOf]
    | some failure => simpa [Ending.alertsWith, hfailure] using journal.linesOf_failure failure
  | failed failure => exact journal.linesOf_failure failure
  | unending => rfl

/-- Every failure is in the journal once. Whatever the state and the journal, with its masks:

* a call that fails writes the line of its failure, unless the code is masked, and a call that does
  not fail writes none;
* so does a refresh, except after a delivery that was cut short: then it returns, and the line of that
  failure, unless its code is masked, is followed by one warning that tells how many notices there were;
* a delivery writes the line of the failure that cut it short, or with which it ends;
* a status message is written as it was given. -/
theorem Call.reported_once :
    (∀ {σ α : Type} (call : Call σ α) (state : σ) (journal : Journal),
      let out := call.run.under journal.logging state
      (journal.record out.reports).alerts = journal.alerts ++ journal.endingLines out.ending) ∧
    (∀ (make : Make) (id : MonitorId) (hub : Hub make.State) (journal : Journal),
      let out := (Hub.refresh id).under journal.logging hub
      match hub.cutShort? id with
      | none =>
        (journal.record out.reports).alerts = journal.alerts ++ journal.endingLines out.ending
      | some (count, failure) =>
        out.ending.isReturned = true ∧
          (journal.record out.reports).alerts = journal.alerts ++ journal.failureLines failure ++
            [⟨journal.sink, .warning, none, Hub.cutShortWarning id count failure⟩]) ∧
    (∀ (make : Make) (source : Platform.Source make.State) (state : make.State) (journal : Journal),
      let out := (Platform.drain source).under journal.logging state
      (journal.record out.reports).alerts = journal.alerts ++
        match out.ending with
        | .returned drained => (drained.failure.map journal.failureLines).getD []
        | ending => journal.endingLines ending) ∧
    (∀ (level : Level) (message : String) (desk : Desk) (journal : Journal),
      let out := (DeskCommand.say level message).run.under journal.logging desk
      (journal.record out.reports).lines =
        journal.lines ++ [⟨journal.sink, level, none, message⟩]) :=
  ⟨fun call => call.candid.alerts_record,
    fun make id hub => hub.alerts_record_refresh make.candid id,
    fun make => make.candid.alerts_record_drain,
    fun _ _ _ _ => rfl⟩

/-- A delivery to a monitor that is cut short by a failure whose code is masked. -/
def Session.maskedLoss : List Command := [
  .desk (.field (.setScript { deliveries := [⟨[.removed "port"], some (.io "lost")⟩] })),
  .desk (.registry (.monitor "m" .script {})),
  .journal (.mask .io),
  .desk (.registry (.refresh "m" none))]

/-- What is written does not tell how a command ended. A message that a caller puts into the journal at
the level of errors stands there though nothing failed; and of a delivery that was cut short by a
failure whose code is masked, only the warning is left. -/
theorem Session.writes_without_failure :
    (let said := ({} : Session).perform (.desk (.say .error "overheated"));
      said.1 = .returned .nothing ∧
        said.2.log.journal.lines = [⟨"a", .error, none, "overheated"⟩]) ∧
    (let lost := ({} : Session).performAll maskedLoss;
      lost.1.getLast? = some (.returned (.changes [])) ∧
        lost.2.log.journal.alerts = [⟨"a", .warning, none,
          "monitor-1: applying 1 notification(s) drained before failure: lost"⟩]) := by
  decide +kernel

end Hotplug
