import Hotplug.Hub.Basic
import Hotplug.Proofs.Hoare
/-!
# What each operation of a hub comes to

Operations talk to the platform and say things on the way. What they leave of records, monitors and
handles is said here once for each operation, by cases on how it ends.

## Main definitions

* `Hotplug.Hub.adopt`: a hub with another roster for one of its monitors.
* `Hotplug.Hub.begun`: a hub with one more monitor, which knows the devices found.

## Main statements

* `Hotplug.Hub.refresh_cases`, `Hotplug.Hub.settle_cases`, `Hotplug.Hub.unwatch_cases`,
  `Hotplug.Hub.enumerate_cases`, `Hotplug.Hub.open_cases`, `Hotplug.Hub.close_cases`
-/

namespace Hotplug

variable {σ α : Type} [Platform σ]

/-- What the monitor of a name watches. -/
def Monitor.watch (monitor : Monitor σ) (id : MonitorId) : Watch (Platform.Origin σ) :=
  ⟨id, monitor.origin, monitor.filter⟩

namespace Hub

/-- The registry of a monitor among the records of a hub. -/
def roster (hub : Hub σ) (monitor : Monitor σ) : Roster (Platform.Origin σ) :=
  ⟨monitor.registry, hub.records⟩

/-- A hub with another roster for a monitor. -/
def adopt (hub : Hub σ) (id : MonitorId) (monitor : Monitor σ)
    (roster : Roster (Platform.Origin σ)) : Hub σ :=
  { hub with
    records := roster.records
    monitors := hub.monitors.insert id { monitor with registry := roster.registry } }

/-- A hub with another platform. -/
def above (hub : Hub σ) (platform : σ) : Hub σ :=
  { hub with platform }

theorem ends_onPlatform {action : Action σ α} {hub : Hub σ} {ending : Ending α} {platform : σ}
    (h : action.Ends hub.platform ending platform) :
    (onPlatform action).Ends hub ending (hub.above platform) :=
  ⟨h.1, congrArg hub.above h.2⟩

theorem ends_applyNotices (id : MonitorId) (monitor : Monitor σ) (notices : List Notice)
    (hub : Hub σ) :
    let result := (monitor.watch id).applyAll (hub.roster monitor) notices
    (applyNotices id monitor notices).Ends hub (.returned result.2)
      (hub.adopt id monitor result.1) := by
  intro result
  have hsaid := Action.ends_forIn_debug result.2
    (announce id (hub.adopt id monitor result.1)) (hub.adopt id monitor result.1)
  exact .bind ⟨rfl, rfl⟩ (.bind ⟨rfl, rfl⟩ (.bind hsaid ⟨rfl, rfl⟩))

theorem ends_monitor {id : MonitorId} {hub : Hub σ} {monitor : Monitor σ}
    (h : hub.monitors.get? id = some monitor) :
    (Hub.monitor id).Ends hub (.returned monitor) hub := by
  refine .bind ⟨rfl, rfl⟩ ?_
  rw [h]
  exact ⟨rfl, rfl⟩

theorem ends_monitor_of_none {id : MonitorId} {hub : Hub σ} (h : hub.monitors.get? id = none) :
    (Hub.monitor id).Ends hub (.failed (.invalid "No such monitor")) hub := by
  refine .bind ⟨rfl, rfl⟩ ?_
  rw [h]
  exact ⟨rfl, rfl⟩

/-- Everything that a refresh of a monitor can come to. One that fails leaves all but the platform as
it was; one that does not applies what was delivered. -/
inductive RefreshCase (id : MonitorId) (hub : Hub σ) : Prop
  /-- There is no such monitor. -/
  | absent (failure : Failure) (hnone : hub.monitors.get? id = none)
    (hends : (refresh id).Ends hub (.failed failure) hub)
  /-- Nothing was delivered. -/
  | nothing (monitor : Monitor σ) (ending : Ending (List Change))
    (hmonitor : hub.monitors.get? id = some monitor) (hending : ending.value? = none)
    (hdrained : ∀ drained,
      ((Platform.drain monitor.source).run hub.platform).ending = .returned drained →
        drained.failure ≠ none ∧ drained.notices = [])
    (hends : (refresh id).Ends hub ending
      (hub.above ((Platform.drain monitor.source).run hub.platform).state))
  /-- Notices were delivered, if only until a failure. -/
  | delivered (monitor : Monitor σ) (drained : Drained)
    (hmonitor : hub.monitors.get? id = some monitor)
    (hdrained : ((Platform.drain monitor.source).run hub.platform).ending = .returned drained)
    (hcounts : drained.failure = none ∨ drained.notices ≠ [])
    (hends : (refresh id).Ends hub
      (.returned ((monitor.watch id).applyAll (hub.roster monitor) drained.notices).2)
      ((hub.above ((Platform.drain monitor.source).run hub.platform).state).adopt id monitor
        ((monitor.watch id).applyAll (hub.roster monitor) drained.notices).1))

theorem refresh_cases (id : MonitorId) (hub : Hub σ) : RefreshCase id hub := by
  cases hmonitor : hub.monitors.get? id with
  | none => exact .absent _ hmonitor (.bind_failed (ends_monitor_of_none hmonitor))
  | some monitor =>
    have hdrain := ends_onPlatform ((Platform.drain monitor.source).ends_run hub.platform)
    cases hdrained : ((Platform.drain monitor.source).run hub.platform).ending with
    | failed failure =>
      rw [hdrained] at hdrain
      exact .nothing monitor _ hmonitor rfl (by simp [hdrained])
        (.bind (ends_monitor hmonitor) (.bind_failed hdrain))
    | unending =>
      rw [hdrained] at hdrain
      exact .nothing monitor _ hmonitor rfl (by simp [hdrained])
        (.bind (ends_monitor hmonitor) (.bind_unending hdrain))
    | returned drained =>
      rw [hdrained] at hdrain
      have happlied := ends_applyNotices id monitor drained.notices
        (hub.above ((Platform.drain monitor.source).run hub.platform).state)
      cases hfailure : drained.failure with
      | none =>
        refine .delivered monitor drained hmonitor hdrained (.inl hfailure)
          (.bind (ends_monitor hmonitor) (.bind hdrain ?_))
        rw [hfailure]
        exact happlied
      | some failure =>
        by_cases hempty : drained.notices.isEmpty = true
        · refine .nothing monitor (.failed failure) hmonitor rfl ?_
            (.bind (ends_monitor hmonitor) (.bind hdrain ?_))
          · simpa [hdrained, hfailure] using hempty
          rw [hfailure]
          simp only [if_pos hempty]
          exact ⟨rfl, rfl⟩
        · refine .delivered monitor drained hmonitor hdrained (.inr (by simpa using hempty))
            (.bind (ends_monitor hmonitor) (.bind hdrain ?_))
          rw [hfailure]
          simp only [if_neg hempty]
          exact .bind ⟨rfl, rfl⟩ happlied

theorem platform_refresh {id : MonitorId} {hub : Hub σ} {monitor : Monitor σ}
    (h : hub.monitors.get? id = some monitor) :
    ((refresh id).run hub).state.platform =
      ((Platform.drain monitor.source).run hub.platform).state := by
  cases refresh_cases id hub with
  | absent failure hnone hends => cases hnone.symm.trans h
  | nothing watching ending hwatching hending hdrained hends =>
    cases hwatching.symm.trans h
    rw [hends.2]
    rfl
  | delivered watching drained hwatching hdrained hcounts hends =>
    cases hwatching.symm.trans h
    rw [hends.2]
    rfl

/-- A hub with one more monitor, which knows the devices found. -/
def begun (hub : Hub σ) (monitor : Monitor σ) (found : List Info) : Hub σ :=
  let result := (monitor.watch hub.nextMonitor).applyAll (hub.roster monitor) (found.map .added)
  let later := ({ hub with nextMonitor := hub.nextMonitor + 1 } : Hub σ).adopt hub.nextMonitor monitor
    result.1
  { later with records := later.records.releaseAll (result.2.map Change.record) }

theorem ends_start (origin : Platform.Origin σ) (filter : Filter) (source : Platform.Source σ)
    (found : List Info) (hub : Hub σ) :
    (start origin filter source found).Ends hub (.returned hub.nextMonitor)
      (hub.begun { origin, filter, source } found) := by
  have happlied := ends_applyNotices hub.nextMonitor { origin, filter, source } (found.map .added)
    { hub with nextMonitor := hub.nextMonitor + 1 }
  exact .bind ⟨rfl, rfl⟩ (.bind happlied (.bind ⟨rfl, rfl⟩ (.bind ⟨rfl, rfl⟩ (.bind ⟨rfl, rfl⟩
    ⟨rfl, rfl⟩))))

/-- Everything that the second step of starting a monitor can come to. -/
inductive SettleCase (origin : Platform.Origin σ) (filter : Filter) (source : Platform.Source σ)
    (hub : Hub σ) : Prop
  /-- Devices were listed. -/
  | started (found : List Info)
    (hfound : ((Platform.enumerate origin filter).run hub.platform).ending = .returned found)
    (hends : (settle origin filter source).Ends hub (.returned hub.nextMonitor)
      ((hub.above ((Platform.enumerate origin filter).run hub.platform).state).begun
        { origin, filter, source } found))
  /-- They could not be listed. -/
  | failed (failure : Failure)
    (hends : (settle origin filter source).Ends hub (.failed failure)
      (hub.above (Platform.unsubscribe source
        ((Platform.enumerate origin filter).run hub.platform).state)))
  /-- The listing never ended. -/
  | unending
    (hends : (settle origin filter source).Ends hub .unending
      (hub.above ((Platform.enumerate origin filter).run hub.platform).state))

theorem settle_cases (origin : Platform.Origin σ) (filter : Filter) (source : Platform.Source σ)
    (hub : Hub σ) : SettleCase origin filter source hub := by
  have henumerate : (onPlatform (Platform.enumerate origin filter)).attempt.Ends hub
      (.returned ((Platform.enumerate origin filter).run hub.platform).ending)
      (hub.above ((Platform.enumerate origin filter).run hub.platform).state) := ⟨rfl, rfl⟩
  cases hending : ((Platform.enumerate origin filter).run hub.platform).ending with
  | returned found =>
    rw [hending] at henumerate
    exact .started found hending (.bind henumerate (ends_start ..))
  | failed failure =>
    rw [hending] at henumerate
    exact .failed failure (.bind henumerate (.bind ⟨rfl, rfl⟩ ⟨rfl, rfl⟩))
  | unending =>
    rw [hending] at henumerate
    exact .unending (.bind henumerate ⟨rfl, rfl⟩)

/-- A hub without a monitor, whose records are given back. -/
def ended (hub : Hub σ) (id : MonitorId) (monitor : Monitor σ) : Hub σ :=
  { hub with
    monitors := hub.monitors.erase id
    records := hub.records.releaseAll monitor.registry.records }

theorem ends_unwatch {id : MonitorId} {hub : Hub σ} {monitor : Monitor σ}
    (h : hub.monitors.get? id = some monitor) :
    (unwatch id).Ends hub (.returned ())
      ((hub.above (Platform.unsubscribe monitor.source hub.platform)).ended id monitor) :=
  .bind (ends_monitor h) (.bind ⟨rfl, rfl⟩ ⟨rfl, rfl⟩)

/-- Everything that ending a monitor can come to. -/
inductive UnwatchCase (id : MonitorId) (hub : Hub σ) : Prop
  /-- There is no such monitor. -/
  | absent (failure : Failure) (hends : (unwatch id).Ends hub (.failed failure) hub)
  /-- It ended. -/
  | ended (monitor : Monitor σ) (hmonitor : hub.monitors.get? id = some monitor)
    (hends : (unwatch id).Ends hub (.returned ())
      ((hub.above (Platform.unsubscribe monitor.source hub.platform)).ended id monitor))

theorem unwatch_cases (id : MonitorId) (hub : Hub σ) : UnwatchCase id hub := by
  cases hmonitor : hub.monitors.get? id with
  | none => exact .absent _ (.bind_failed (ends_monitor_of_none hmonitor))
  | some monitor => exact .ended monitor hmonitor (ends_unwatch hmonitor)

/-- Everything that looking for devices once can come to. -/
inductive EnumerateCase (origin : Platform.Origin σ) (filter : Filter) (hub : Hub σ) : Prop
  /-- Nothing was listed. -/
  | nothing (ending : Ending (List RecordId)) (hending : ending.value? = none)
    (hends : (enumerate origin filter).Ends hub ending
      (hub.above ((Platform.enumerate origin filter).run hub.platform).state))
  /-- Devices were listed. -/
  | found (infos : List Info)
    (hends : (enumerate origin filter).Ends hub
      (.returned (hub.records.createAll origin none infos).1)
      { hub.above ((Platform.enumerate origin filter).run hub.platform).state with
        records := (hub.records.createAll origin none infos).2 })

theorem enumerate_cases (origin : Platform.Origin σ) (filter : Filter) (hub : Hub σ) :
    EnumerateCase origin filter hub := by
  have hlisted := ends_onPlatform ((Platform.enumerate origin filter).ends_run hub.platform)
  cases hending : ((Platform.enumerate origin filter).run hub.platform).ending with
  | returned found =>
    rw [hending] at hlisted
    exact .found (found.filter filter.passes) (.bind hlisted ⟨rfl, rfl⟩)
  | failed failure =>
    rw [hending] at hlisted
    exact .nothing _ rfl (.bind_failed hlisted)
  | unending =>
    rw [hending] at hlisted
    exact .nothing _ rfl (.bind_unending hlisted)

theorem ends_record {id : RecordId} {hub : Hub σ} {record : DeviceRecord (Platform.Origin σ)}
    (h : hub.records.get? id = some record) : (Hub.record id).Ends hub (.returned record) hub := by
  refine .bind ⟨rfl, rfl⟩ ?_
  rw [h]
  exact ⟨rfl, rfl⟩

theorem ends_record_of_none {id : RecordId} {hub : Hub σ} (h : hub.records.get? id = none) :
    (Hub.record id).Ends hub (.failed (.invalid "No such device record")) hub := by
  refine .bind ⟨rfl, rfl⟩ ?_
  rw [h]
  exact ⟨rfl, rfl⟩

/-- A hub with one more handle, on a channel to the device of a record. -/
def opened (hub : Hub σ) (id : RecordId) (channel : Platform.Channel σ) : Hub σ :=
  { hub with
    records := hub.records.retain id
    handles := hub.handles.insert hub.nextHandle ⟨id, channel⟩
    nextHandle := hub.nextHandle + 1 }

/-- Everything that opening the device of a record can come to. -/
inductive OpenCase (id : RecordId) (hub : Hub σ) : Prop
  /-- The platform was not asked. -/
  | refused (failure : Failure) (hends : (open_ id).Ends hub (.failed failure) hub)
  /-- The platform opened nothing. -/
  | nothing (record : DeviceRecord (Platform.Origin σ)) (ending : Ending HandleId)
    (hends : (open_ id).Ends hub ending
      (hub.above ((Platform.openChannel record.origin record.info).run hub.platform).state))
  /-- The device is open. -/
  | opened (record : DeviceRecord (Platform.Origin σ)) (channel : Platform.Channel σ)
    (hrecord : hub.records.get? id = some record)
    (hends : (open_ id).Ends hub (.returned hub.nextHandle)
      ((hub.above ((Platform.openChannel record.origin record.info).run hub.platform).state).opened
        id channel))

theorem open_cases (id : RecordId) (hub : Hub σ) : OpenCase id hub := by
  cases hrecord : hub.records.get? id with
  | none => exact .refused _ (.bind_failed (ends_record_of_none hrecord))
  | some record =>
    by_cases hstatus : record.status ≠ .online
    · have hrefused : (open_ id).Ends hub
          (.failed (.notFound ("Device '" ++ record.info.path ++ "' is disconnected"))) hub := by
        refine .bind (ends_record hrecord) ?_
        rw [if_pos hstatus]
        exact ⟨rfl, rfl⟩
      exact .refused _ hrefused
    · have hchannel := ends_onPlatform
        ((Platform.openChannel record.origin record.info).ends_run hub.platform)
      cases hending : ((Platform.openChannel record.origin record.info).run hub.platform).ending with
      | returned channel =>
        rw [hending] at hchannel
        refine .opened record channel hrecord (.bind (ends_record hrecord) ?_)
        rw [if_neg hstatus]
        exact .bind hchannel (.bind ⟨rfl, rfl⟩ ⟨rfl, rfl⟩)
      | failed failure =>
        rw [hending] at hchannel
        refine .nothing record (.failed failure) (.bind (ends_record hrecord) ?_)
        rw [if_neg hstatus]
        exact .bind_failed hchannel
      | unending =>
        rw [hending] at hchannel
        refine .nothing record .unending (.bind (ends_record hrecord) ?_)
        rw [if_neg hstatus]
        exact .bind_unending hchannel

theorem ends_handle {id : HandleId} {hub : Hub σ} {handle : Handle σ}
    (h : hub.handles.get? id = some handle) : (Hub.handle id).Ends hub (.returned handle) hub := by
  refine .bind ⟨rfl, rfl⟩ ?_
  rw [h]
  exact ⟨rfl, rfl⟩

theorem ends_handle_of_none {id : HandleId} {hub : Hub σ} (h : hub.handles.get? id = none) :
    (Hub.handle id).Ends hub (.failed (.invalid "No such handle")) hub := by
  refine .bind ⟨rfl, rfl⟩ ?_
  rw [h]
  exact ⟨rfl, rfl⟩

/-- A hub without a handle, whose reference is given back. -/
def closed (hub : Hub σ) (id : HandleId) (handle : Handle σ) : Hub σ :=
  { hub with
    handles := hub.handles.erase id
    records := hub.records.release handle.record }

theorem ends_close {id : HandleId} {hub : Hub σ} {handle : Handle σ}
    {record : DeviceRecord (Platform.Origin σ)} (hhandle : hub.handles.get? id = some handle)
    (hrecord : hub.records.get? handle.record = some record) :
    (close id).Ends hub (.returned ())
      ((hub.above (Platform.closeChannel handle.channel hub.platform)).closed id handle) :=
  .bind (ends_handle hhandle) (.bind (ends_record hrecord) (.bind ⟨rfl, rfl⟩ ⟨rfl, rfl⟩))

/-- Everything that closing a handle can come to. -/
inductive CloseCase (id : HandleId) (hub : Hub σ) : Prop
  /-- There is no such handle, or no record of it. -/
  | refused (failure : Failure) (hends : (close id).Ends hub (.failed failure) hub)
  | closed (handle : Handle σ) (hhandle : hub.handles.get? id = some handle)
    (hends : (close id).Ends hub (.returned ())
      ((hub.above (Platform.closeChannel handle.channel hub.platform)).closed id handle))

theorem close_cases (id : HandleId) (hub : Hub σ) : CloseCase id hub := by
  cases hhandle : hub.handles.get? id with
  | none => exact .refused _ (.bind_failed (ends_handle_of_none hhandle))
  | some handle =>
    cases hrecord : hub.records.get? handle.record with
    | none =>
      exact .refused _ (.bind (ends_handle hhandle) (.bind_failed (ends_record_of_none hrecord)))
    | some record => exact .closed handle hhandle (ends_close hhandle hrecord)

end Hub

end Hotplug
