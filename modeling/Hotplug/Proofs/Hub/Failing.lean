import Hotplug.Hub.Transfer
import Hotplug.Proofs.Backend.Failing
/-!
# Requests that fail

A request that a hub over devices in memory cannot meet may have come a long way before it fails: a
subscription was made, a device was opened. Whatever was done is taken back, and records, monitors and
handles are as they were.

## Main definitions

* `Hotplug.Hub.Unharmed`: what a failed request leaves of a hub.

## Main statements

* `Hotplug.Hub.unharmed_open`, `Hotplug.Hub.unharmed_refresh`, `Hotplug.Hub.unharmed_watch`,
  `Hotplug.Hub.unharmed_setAttributes`: requests that fail.
* `Hotplug.Hub.close_connected`: a device that is closed as soon as it is open.
-/

namespace Hotplug.Hub

/-- Some calls were made and came to nothing, and some signalling descriptors stayed open. Everything
else is as it was, but for the names that were given. -/
structure Unharmed (made : List Operation) (left : List Nat) (hub later : Hub Memory) : Prop where
  records : later.records = hub.records
  monitors : later.monitors = hub.monitors
  nextMonitor : later.nextMonitor = hub.nextMonitor
  handles : later.handles = hub.handles
  nextHandle_le : hub.nextHandle ≤ later.nextHandle
  platform : hub.platform.Unharmed made left later.platform

variable {hub : Hub Memory} {made : List Operation} {left : List Nat} {failure : Failure}

theorem Unharmed.refl (hub : Hub Memory) : hub.Unharmed [] [] hub :=
  ⟨rfl, rfl, rfl, rfl, Nat.le_refl _, .refl _⟩

theorem Unharmed.above {memory : Memory} (h : hub.platform.Unharmed made left memory) :
    hub.Unharmed made left (hub.above memory) :=
  ⟨rfl, rfl, rfl, rfl, Nat.le_refl _, h⟩

/-- A call that is refused. -/
theorem unharmed_entered (hub : Hub Memory) (operation : Operation) :
    hub.Unharmed [operation] [] (hub.above (hub.platform.entered operation)) :=
  .above (Memory.unharmed_entered ..)

/-- A hub with a handle on a new channel to the device of a record. -/
def connected (hub : Hub Memory) (id : RecordId) (info : Info) : Hub Memory :=
  (hub.above (hub.platform.opened info)).opened id (hub.platform.nextChannel info)

theorem get?_handles_connected (hub : Hub Memory) (id : RecordId) (info : Info) :
    (hub.connected id info).handles.get? hub.nextHandle = some ⟨id, hub.platform.nextChannel info⟩ :=
  (Table.get?_insert ..).trans (if_pos rfl)

/-- Opening fails without a trace, or the device is open. -/
theorem open_ends (id : RecordId) (hub : Hub Memory) :
    (∃ failure made later, (open_ id).Ends hub (.failed failure) later ∧ hub.Unharmed made [] later) ∨
      ∃ record, hub.records.get? id = some record ∧
        (open_ id).Ends hub (.returned hub.nextHandle) (hub.connected id record.info) := by
  cases hrecord : hub.records.get? id with
  | none => exact .inl ⟨_, [], hub, .bind_failed (ends_record_of_none hrecord), .refl hub⟩
  | some record =>
    by_cases hstatus : record.status ≠ .online
    · refine .inl ⟨.notFound ("Device '" ++ record.info.path ++ "' is disconnected"), [], hub,
        .bind (ends_record hrecord) ?_, .refl hub⟩
      rw [if_pos hstatus]
      exact ⟨rfl, rfl⟩
    rcases Memory.open_cases record.info hub.platform with hopened | ⟨failure, hrefused⟩
    · refine .inr ⟨record, rfl, .bind (ends_record hrecord) ?_⟩
      rw [if_neg hstatus]
      exact .bind (ends_onPlatform hopened) (.bind ⟨rfl, rfl⟩ ⟨rfl, rfl⟩)
    · refine .inl ⟨failure, [.openDevice], _, .bind (ends_record hrecord) ?_,
        hub.unharmed_entered .openDevice⟩
      rw [if_neg hstatus]
      exact .bind_failed (ends_onPlatform hrefused)

theorem unharmed_open {id : RecordId} (h : ((open_ id).run hub).ending = .failed failure) :
    ∃ made, hub.Unharmed made [] ((open_ id).run hub).state := by
  rcases open_ends id hub with ⟨_, made, later, hends, hunharmed⟩ | ⟨record, -, hends⟩
  · rw [hends.2]
    exact ⟨made, hunharmed⟩
  · rw [hends.1] at h
    cases h

/-- A device that is closed as soon as it is open leaves nothing behind. -/
theorem close_connected {held : List RecordId} (h : hub.Sound held) (hfresh : hub.platform.Fresh)
    {id : RecordId} {record : DeviceRecord Unit} (hrecord : hub.records.get? id = some record) :
    ∃ later, (close hub.nextHandle).Ends (hub.connected id record.info) (.returned ()) later ∧
      hub.Unharmed [.openDevice] [] later := by
  have hthere : (hub.connected id record.info).records.get? id =
      some { record with refs := record.refs + 1 } := by
    refine (Records.get?_retain ..).trans ?_
    rw [if_pos rfl]
    exact congrArg (Option.map _) hrecord
  refine ⟨_, ends_close (hub.get?_handles_connected ..) hthere, ?_, rfl, rfl, ?_, Nat.le_succ _,
    Memory.unharmed_close hfresh record.info⟩
  · exact Records.release_retain hrecord (h.counts.pos id record hrecord)
  · exact Table.erase_insert (h.newHandle _ (Nat.le_refl _)) _

theorem unharmed_refresh {id : MonitorId} (h : ((refresh id).run hub).ending = .failed failure) :
    ∃ made, hub.Unharmed made [] ((refresh id).run hub).state := by
  cases refresh_cases id hub with
  | absent refusal hnone hends =>
    rw [hends.2]
    exact ⟨[], .refl hub⟩
  | nothing monitor ending hmonitor hending hdrained hends =>
    have hstate : ((Platform.drain monitor.source).run hub.platform).state =
        hub.platform.entered .drain := Memory.drain_state fun drained h => (hdrained drained h).1
    rw [hends.2, hstate]
    exact ⟨[.drain], hub.unharmed_entered .drain⟩
  | delivered monitor drained hmonitor hdrained hcounts hends =>
    rw [hends.1] at h
    cases h

/-- If devices cannot be listed, the subscription made before is taken back. -/
theorem unharmed_watch (hfresh : hub.platform.Fresh) {filter : Filter}
    (h : ((watch () filter).run hub).ending = .failed failure) :
    ∃ made left, hub.Unharmed made left ((watch () filter).run hub).state ∧
      (left = [] ∨ made = [.subscribe, .enumerate] ∧ left = [hub.platform.newPair.1]) := by
  rcases hub.platform.subscribe_cases with hsubscribe | ⟨refusal, hsubscribe⟩
  · have hbegun : (onPlatform (Platform.subscribe () filter)).Ends hub
        (.returned hub.platform.nextSubscriber) (hub.above hub.platform.subscribed) :=
      ends_onPlatform hsubscribe
    cases settle_cases () filter hub.platform.nextSubscriber (hub.above hub.platform.subscribed) with
    | started found hfound hends =>
      have hwatch : (watch () filter).Ends hub _ _ := .bind hbegun hends
      rw [hwatch.1] at h
      cases h
    | failed refusal hends =>
      have hwatch : (watch () filter).Ends hub _ _ := .bind hbegun hends
      have hlisted : ((Platform.enumerate () filter).run hub.platform.subscribed).state =
          hub.platform.subscribed.entered .enumerate := Memory.enumerate_state filter _
      refine ⟨_, _, ?_, .inr ⟨rfl, rfl⟩⟩
      rw [hwatch.2]
      change hub.Unharmed _ _ (hub.above (Platform.unsubscribe _
        ((Platform.enumerate () filter).run hub.platform.subscribed).state))
      rw [hlisted]
      exact .above (Memory.unharmed_unsubscribe hfresh)
    | unending hends =>
      have hwatch : (watch () filter).Ends hub _ _ := .bind hbegun hends
      rw [hwatch.1] at h
      cases h
  · have hwatch : (watch () filter).Ends hub (.failed refusal)
        (hub.above (hub.platform.entered .subscribe)) := .bind_failed (ends_onPlatform hsubscribe)
    rw [hwatch.2]
    exact ⟨[.subscribe], [], hub.unharmed_entered .subscribe, .inl rfl⟩

/-- Looking for the channel of a handle changes nothing. -/
theorem hoare_channelFor (family : Family) (id : HandleId) :
    (channelFor family id).Hoare (· = hub) fun _ => (· = hub) := by
  refine .bind_keep ?_ fun handle => .bind_keep ?_ fun record => ?_
  · refine .bind_keep (.get fun _ h => h) fun now => ?_
    split
    · exact .pure fun _ h => h
    · exact .fail fun _ h => h
  · refine .bind_keep (.get fun _ h => h) fun now => ?_
    split
    · exact .pure fun _ h => h
    · exact .fail fun _ h => h
  · split
    · exact .pure fun _ h => h
    · exact .fail fun _ h => h

theorem unharmed_setAttributes {id : HandleId} {bps : UInt32} {flags : Serial.Flags}
    (h : ((setAttributes id bps flags).run hub).ending = .failed failure) :
    ∃ made, hub.Unharmed made [] ((setAttributes id bps flags).run hub).state := by
  have hharmless : (setAttributes id bps flags).Hoare (· = hub) fun ending later =>
      ending ≠ .returned () → ∃ made, hub.Unharmed made [] later := by
    have hkept (later : Hub Memory) (h : later = hub) : ∃ made, hub.Unharmed made [] later :=
      ⟨[], h ▸ .refl hub⟩
    refine .bind (hoare_channelFor .serial id) (fun channel => ?_) (fun _ later h _ => hkept later h)
      fun later h _ => hkept later h
    cases (Serial.Settings.ofFlags bps flags).mapError (·.failure) with
    | error refusal => exact .fail fun later h _ => hkept later h
    | ok settings =>
      intro now heq hfailed
      rw [heq] at hfailed ⊢
      rcases Memory.configure_cases channel settings hub.platform with hreturned | ⟨refusal, hrefused⟩
      · exact absurd hreturned hfailed
      · have hends : (onPlatform (Platform.configure channel settings)).Ends hub (.failed refusal)
            (hub.above (hub.platform.entered .configureSerial)) := ends_onPlatform hrefused
        refine ⟨[.configureSerial], ?_⟩
        change hub.Unharmed _ _ ((onPlatform (Platform.configure channel settings)).run hub).state
        rw [hends.2]
        exact hub.unharmed_entered .configureSerial
  exact hharmless hub rfl (by rw [h]; nofun)

end Hotplug.Hub
