import Hotplug.Hub.Transfer
import Hotplug.Hub.View
import Hotplug.Proofs.Hub.Steps
import Hotplug.Proofs.Report.Platforms
/-!
# Hubs are candid

On a candid platform every operation of a hub says of the failure with which it ends. Refreshing a
monitor is the exception: it goes on after a failure that left it some notices, says of that failure
all the same, and warns of how many notices it applies.

## Main definitions

* `Hotplug.Drained.cutShort?`, `Hotplug.Hub.cutShort?`: the notices and the failure of a delivery that
  was cut short.
* `Hotplug.Hub.refreshAlerts`: what a refresh says.

## Main statements

* `Hotplug.Hub.candid_watch`, `Hotplug.Hub.candid_open`, and so on for each operation.
* `Hotplug.Hub.alerts_refresh`, `Hotplug.Hub.blind_refresh`
-/

namespace Hotplug

/-- If a delivery was cut short after some notices: how many there are, and the failure. -/
def Drained.cutShort? (drained : Drained) : Option (Nat × Failure) :=
  drained.failure.bind fun failure =>
    if drained.notices.isEmpty then none else some (drained.notices.length, failure)

namespace Hub

open Hotplug.Action

variable {σ α : Type} [Platform σ]

/-! ### Looking a name up -/

theorem candid_record (id : RecordId) : (record id : Action (Hub σ) _).Candid :=
  .bind .get fun _ => by
    split
    · exact .pure
    · exact .fail

theorem candid_monitor (id : MonitorId) : (monitor id : Action (Hub σ) _).Candid :=
  .bind .get fun _ => by
    split
    · exact .pure
    · exact .fail

theorem candid_handle (id : HandleId) : (handle id : Action (Hub σ) _).Candid :=
  .bind .get fun _ => by
    split
    · exact .pure
    · exact .fail

theorem candid_view (id : RecordId) : (view id : Action (Hub σ) _).Candid :=
  .bind .get fun _ => by
    split
    · exact .pure
    · exact .fail

/-! ### Monitors -/

theorem candid_applyNotices (id : MonitorId) (monitor : Monitor σ) (notices : List Notice) :
    (applyNotices id monitor notices).Candid :=
  .bind .modifyGet fun _ => .bind .get fun _ =>
    .bind (.forIn (fun _ _ => .bind .debug fun _ => .pure) _) fun _ => .pure

theorem candid_start (origin : Platform.Origin σ) (filter : Filter) (source : Platform.Source σ)
    (initial : List Info) : (start origin filter source initial).Candid :=
  .bind .modifyGet fun _ => .bind (candid_applyNotices _ _ _) fun _ => .bind .modify fun _ =>
    .bind .get fun _ => .bind .debug fun _ => .pure

/-- The failure to list devices is said once, though it is passed on after it came about. -/
theorem candid_settle (h : Platform.Candid σ) (origin : Platform.Origin σ) (filter : Filter)
    (source : Platform.Source σ) : (settle origin filter source).Candid := by
  refine ((h.enumerate origin filter).on _ _).attempt_bind (fun ending hub => ?_) fun
    | .returned initial => (candid_start origin filter source initial).blind
    | .failed _ => .bind (.on .modify _ _) fun _ => .failAgain
    | .unending => .wait
  -- The failure was said when it came about; ending with it again says nothing.
  cases ending with
  | returned initial => exact (candid_start origin filter source initial).said hub
  | failed failure => rfl
  | unending => rfl

theorem candid_watch (h : Platform.Candid σ) (origin : Platform.Origin σ) (filter : Filter) :
    (watch origin filter).Candid :=
  .bind ((h.subscribe origin filter).on _ _) fun source => candid_settle h origin filter source

theorem candid_unwatch (id : MonitorId) : (unwatch id : Action (Hub σ) Unit).Candid :=
  .bind (candid_monitor id) fun _ => .bind (Candid.modify.on _ _) fun _ => .modify

theorem candid_enumerate (h : Platform.Candid σ) (origin : Platform.Origin σ) (filter : Filter) :
    (enumerate origin filter).Candid :=
  .bind ((h.enumerate origin filter).on _ _) fun _ => .modifyGet

/-! ### Handles and transfers -/

theorem candid_open (h : Platform.Candid σ) (id : RecordId) :
    (open_ id : Action (Hub σ) HandleId).Candid :=
  .bind (candid_record id) fun _ => .ite .fail
    (.bind ((h.openChannel _ _).on _ _) fun _ => .bind .debug fun _ => .modifyGet)

theorem candid_close (id : HandleId) : (close id : Action (Hub σ) Unit).Candid :=
  .bind (candid_handle id) fun _ => .bind (candid_record _) fun _ => .bind .debug fun _ => .modify

/-- A transfer is candid if what it does with its channel is. -/
theorem candid_transfer (family : Family) (id : HandleId)
    {next : Platform.Channel σ → Action (Hub σ) α} (h : ∀ channel, (next channel).Candid) :
    (channelFor family id >>= next).Candid :=
  .bind (.bind (candid_handle id) fun _ => .bind (candid_record _) fun _ => .ite .pure .fail) h

theorem candid_setAttributes (h : Platform.Candid σ) (id : HandleId) (bps : UInt32)
    (flags : Serial.Flags) : (setAttributes id bps flags : Action (Hub σ) Unit).Candid :=
  candid_transfer _ id fun _ => .bind (.require _) fun _ => (h.configure _ _).on _ _

theorem candid_serialRead (h : Platform.Candid σ) (id : HandleId) (room : Nat) (limit : Int) :
    (serialRead id room limit : Action (Hub σ) Bytes).Candid :=
  candid_transfer _ id fun _ => .ite .fail ((h.read _ _ _).on _ _)

theorem candid_serialWrite (h : Platform.Candid σ) (id : HandleId) (data : Bytes) :
    (serialWrite id data : Action (Hub σ) Nat).Candid :=
  candid_transfer _ id fun _ => .ite .pure ((h.write _ _).on _ _)

theorem candid_hidRead (h : Platform.Candid σ) (id : HandleId) (room : Nat) (limit : Int) :
    (hidRead id room limit : Action (Hub σ) Bytes).Candid :=
  candid_transfer _ id fun _ => .ite .fail ((h.read _ _ _).on _ _)

theorem candid_hidWrite (h : Platform.Candid σ) (id : HandleId) (report : Bytes) :
    (hidWrite id report : Action (Hub σ) Nat).Candid :=
  candid_transfer _ id fun _ => .ite .pure ((h.write _ _).on _ _)

theorem candid_sendFeature (h : Platform.Candid σ) (id : HandleId) (report : Bytes) :
    (sendFeature id report : Action (Hub σ) Nat).Candid :=
  candid_transfer _ id fun _ => .ite .pure ((h.sendFeature _ _).on _ _)

theorem candid_getFeature (h : Platform.Candid σ) (id : HandleId) (number : UInt8)
    (buffer : Bytes) : (getFeature id number buffer : Action (Hub σ) (Nat × Bytes)).Candid :=
  candid_transfer _ id fun _ => .ite .fail ((h.getFeature _ _ _).on _ _)

theorem candid_usage (h : Platform.Candid σ) (id : HandleId) :
    (usage id : Action (Hub σ) Hid.Usage).Candid :=
  candid_transfer _ id fun _ => .bind ((h.reportDescriptor _).on _ _) fun _ => .pure

/-! ### Refreshing a monitor -/

/-- If the next delivery of announcements to a monitor is cut short after some notices: how many there
are, and the failure. -/
def cutShort? (hub : Hub σ) (id : MonitorId) : Option (Nat × Failure) := do
  let monitor ← hub.monitors.get? id
  let drained ← ((Platform.drain monitor.source).run hub.platform).ending.value?
  drained.cutShort?

/-- The warning about a delivery that was cut short. -/
def cutShortWarning (id : MonitorId) (count : Nat) (failure : Failure) : String :=
  monitorName id ++ ": applying " ++ toString count ++
    " notification(s) drained before failure: " ++ failure.message

/-- What refreshing a monitor says, by the way in which its delivery was cut short, if it was, and the
way in which the refresh ends. -/
def refreshAlerts (id : MonitorId) (ending : Ending α) : Option (Nat × Failure) → List Report
  | none => ending.alerts
  | some (count, failure) => [.failure failure, .status .warning (cutShortWarning id count failure)]

/-- What is said of a delivery, and of the notices that it left. -/
def conclude (id : MonitorId) (monitor : Monitor σ) (drained : Drained) :
    Action (Hub σ) (List Change) :=
  match drained.failure with
  | none => applyNotices id monitor drained.notices
  | some failure =>
    if drained.notices.isEmpty then Action.failAgain failure
    else do
      Action.warn (cutShortWarning id drained.notices.length failure)
      applyNotices id monitor drained.notices

/-- The failure of a delivery and what is said afterwards are all that a refresh says. -/
theorem alerts_conclude (id : MonitorId) (monitor : Monitor σ) (drained : Drained) (hub : Hub σ) :
    let out := (conclude id monitor drained).run hub
    drained.failure.toList.map Report.failure ++ Report.alerts out.reports =
        refreshAlerts id out.ending drained.cutShort? ∧
      (drained.cutShort?.isSome → out.ending.isReturned) := by
  -- Applying notices always returns, and says nothing above debug messages.
  have happlied := (candid_applyNotices id monitor drained.notices).said hub
  obtain ⟨hending, -⟩ := ends_applyNotices id monitor drained.notices hub
  unfold conclude Drained.cutShort?
  cases drained.failure with
  | none => exact ⟨happlied, nofun⟩
  | some failure =>
    cases hnotices : drained.notices.isEmpty with
    | true => exact ⟨rfl, nofun⟩
    | false =>
      have hrun : (Action.warn (cutShortWarning id drained.notices.length failure)).run hub =
        ⟨.returned (), hub, [.status .warning (cutShortWarning id drained.notices.length failure)]⟩ :=
        rfl
      rw [hending] at happlied
      simp only [Bool.false_eq_true, if_false, Option.bind_some, run_bind_returned hrun]
      rw [hending, Report.alerts_append, happlied]
      exact ⟨rfl, fun _ => rfl⟩

theorem blind_conclude (id : MonitorId) (monitor : Monitor σ) (drained : Drained) :
    (conclude id monitor drained).Blind := by
  have happlied := (candid_applyNotices id monitor drained.notices).blind
  unfold conclude
  split
  · exact happlied
  · exact .ite .failAgain (.bind .say fun _ => happlied)

/-- Masks hide the failure of a delivery that was cut short, and neither the notices nor the warning. -/
theorem blind_refresh (h : Platform.Candid σ) (id : MonitorId) :
    (refresh id : Action (Hub σ) (List Change)).Blind :=
  .bind (candid_monitor id).blind fun monitor =>
    .bind ((h.drain monitor.source).blind.on _ _) fun drained => blind_conclude id monitor drained

/-- A refresh has the announcements of the monitor delivered, and concludes. -/
theorem run_refresh {id : MonitorId} {hub : Hub σ} {monitor : Monitor σ}
    (hmonitor : hub.monitors.get? id = some monitor) :
    (refresh id).run hub =
      ((onPlatform (Platform.drain monitor.source)).run hub).andThen (conclude id monitor) := by
  have hrun : (Hub.monitor id).run hub = ⟨.returned monitor, hub, []⟩ := by
    rw [Hub.monitor, run_bind_returned (run_get hub), hmonitor]
    rfl
  have hrefresh : (refresh id : Action (Hub σ) _) = Hub.monitor id >>= fun monitor =>
    onPlatform (Platform.drain monitor.source) >>= conclude id monitor := rfl
  rw [hrefresh, run_bind_returned hrun, ← run_bind]
  rfl

/-- A refresh says of the failure with which it ends. After a delivery that was cut short it says of
that failure and warns, and does not fail. -/
theorem alerts_refresh (h : Platform.Candid σ) (hub : Hub σ) (id : MonitorId) :
    let out := (refresh id).run hub
    Report.alerts out.reports = refreshAlerts id out.ending (hub.cutShort? id) ∧
      ((hub.cutShort? id).isSome → out.ending.isReturned) := by
  cases hmonitor : hub.monitors.get? id with
  | none =>
    have hcut : hub.cutShort? id = none := by simp [cutShort?, hmonitor]
    have hrun : (Hub.monitor id).run hub =
        ⟨.failed (.invalid "No such monitor"), hub, [.failure (.invalid "No such monitor")]⟩ := by
      rw [Hub.monitor, run_bind_returned (run_get hub), hmonitor]
      rfl
    rw [refresh, run_bind_failed hrun, hcut]
    exact ⟨rfl, nofun⟩
  | some monitor =>
    have hdrain := (h.drain monitor.source).said hub.platform
    rcases hout : (Platform.drain monitor.source).run hub.platform with ⟨ending, platform, reports⟩
    -- The platform says of the failure that it returns, and what is done with the notices does not.
    have hplatform : (onPlatform (Platform.drain monitor.source)).run hub =
        ⟨ending, hub.above platform, reports⟩ := by
      rw [onPlatform, run_on, hout]
      rfl
    have hcut : hub.cutShort? id = ending.value?.bind Drained.cutShort? := by
      simp [cutShort?, hmonitor, hout]
    rw [hout] at hdrain
    rw [run_refresh hmonitor, hplatform, hcut]
    cases ending with
    | failed failure => exact ⟨hdrain, nofun⟩
    | unending => exact ⟨hdrain, nofun⟩
    | returned drained =>
      obtain ⟨hsaid, hreturned⟩ := alerts_conclude id monitor drained (hub.above platform)
      have hdelivered : Report.alerts reports = drained.failure.toList.map .failure := hdrain
      refine ⟨?_, hreturned⟩
      change Report.alerts (reports ++ _) = _
      rw [Report.alerts_append, hdelivered]
      exact hsaid

end Hub

end Hotplug
