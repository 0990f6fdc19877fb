import Hotplug.Proofs.Hub.Replay
import Hotplug.Proofs.Report.Hub
/-!
# Batches of announcements

Where one delivery of announcements ends and the next begins is not up to the monitor, and neither is
where a delivery is cut short. A refresh treats notices one after the other, so it makes no difference
to the registry and to the changes in how many refreshes they come. A delivery that was cut short after
some notices counts like one that ended there; one that brought nothing leaves everything as it was.

## Main definitions

* `Hotplug.Hub.refreshed`: a hub with notices applied to one of its monitors.
* `Hotplug.Records.tell`: a change with what is known of its device.

## Main statements

* `Hotplug.Hub.run_refresh_delivered`, `Hotplug.Hub.run_refresh_cutShort`,
  `Hotplug.Hub.run_refresh_empty`: a refresh by what was delivered.
* `Hotplug.Hub.refreshed_append`
* `Hotplug.Scene.refresh_in_batches`
-/

namespace Hotplug

/-- A change with what is known of its device. -/
def Records.tell {ω : Type} (records : Records ω) (change : Change) : Change × Option Info :=
  (change, records.info? change.record)

namespace Hub

open Hotplug.Action

variable {σ : Type} [Platform σ] {hub : Hub σ} {id : MonitorId} {monitor : Monitor σ}

/-- The changes that notices for a monitor make. -/
def changes (hub : Hub σ) (id : MonitorId) (monitor : Monitor σ) (notices : List Notice) :
    List Change :=
  ((monitor.watch id).applyAll (hub.roster monitor) notices).2

/-- A hub with notices applied to one of its monitors. -/
def refreshed (hub : Hub σ) (id : MonitorId) (monitor : Monitor σ) (notices : List Notice) : Hub σ :=
  hub.adopt id monitor ((monitor.watch id).applyAll (hub.roster monitor) notices).1

/-- What is said of the changes. -/
def lines (hub : Hub σ) (id : MonitorId) (changes : List Change) : List Report :=
  changes.map fun change => .status .debug (announce id hub change)

theorem run_applyNotices (id : MonitorId) (monitor : Monitor σ) (notices : List Notice)
    (hub : Hub σ) :
    (applyNotices id monitor notices).run hub = ⟨.returned (hub.changes id monitor notices),
      hub.refreshed id monitor notices,
      (hub.refreshed id monitor notices).lines id (hub.changes id monitor notices)⟩ := by
  have happlied : (Action.modifyGet fun hub : Hub σ => (hub.changes id monitor notices,
      hub.refreshed id monitor notices)).run hub =
        ⟨.returned (hub.changes id monitor notices), hub.refreshed id monitor notices, []⟩ := rfl
  have hsaid := run_forIn_say (hub.changes id monitor notices)
    (fun change => .status .debug (announce id (hub.refreshed id monitor notices) change))
    (hub.refreshed id monitor notices)
  have hdone := run_pure (hub.changes id monitor notices) (hub.refreshed id monitor notices)
  refine (run_bind_run happlied (run_bind_run (run_get _) (run_bind_run hsaid hdone))).trans ?_
  rw [List.nil_append, List.nil_append, List.append_nil]
  rfl

/-! ### What a refresh comes to -/

theorem run_onPlatform {α : Type} {action : Action σ α} {platform left : σ} {ending : Ending α}
    {reports : List Report} (h : action.run platform = ⟨ending, left, reports⟩) (hub : Hub σ) :
    (onPlatform action).run (hub.above platform) = ⟨ending, hub.above left, reports⟩ := by
  change (⟨(action.run platform).ending, hub.above (action.run platform).state,
    (action.run platform).reports⟩ : Outcome _ _) = _
  rw [h]

section Refresh

variable {platform left : σ} {notices : List Notice} {failure : Failure} {reports : List Report}
  (hmonitor : hub.monitors.get? id = some monitor)
include hmonitor

theorem run_refresh_of_drain {drained : Drained} {ending : Ending (List Change)} {later : Hub σ}
    {more : List Report}
    (hdrain : (Platform.drain monitor.source).run platform = ⟨.returned drained, left, reports⟩)
    (hconclude : (conclude id monitor drained).run (hub.above left) = ⟨ending, later, more⟩) :
    (refresh id).run (hub.above platform) = ⟨ending, later, reports ++ more⟩ := by
  have habove : (hub.above platform).monitors.get? id = some monitor := hmonitor
  rw [run_refresh habove, ← run_bind, run_bind_run (run_onPlatform hdrain hub) hconclude]

theorem run_refresh_delivered
    (hdrain : (Platform.drain monitor.source).run platform =
      ⟨.returned { notices }, left, reports⟩) :
    (refresh id).run (hub.above platform) = ⟨.returned (hub.changes id monitor notices),
      (hub.refreshed id monitor notices).above left,
      reports ++ (hub.refreshed id monitor notices).lines id (hub.changes id monitor notices)⟩ :=
  run_refresh_of_drain hmonitor hdrain (run_applyNotices id monitor notices (hub.above left))

/-- Some notices were delivered before a failure. -/
theorem run_refresh_cutShort (hnotices : notices ≠ [])
    (hdrain : (Platform.drain monitor.source).run platform =
      ⟨.returned ⟨notices, some failure⟩, left, reports⟩) :
    (refresh id).run (hub.above platform) = ⟨.returned (hub.changes id monitor notices),
      (hub.refreshed id monitor notices).above left,
      reports ++ .status .warning (cutShortWarning id notices.length failure) ::
        (hub.refreshed id monitor notices).lines id (hub.changes id monitor notices)⟩ := by
  refine run_refresh_of_drain hmonitor hdrain ?_
  have hwarned : (Action.warn (cutShortWarning id notices.length failure)).run (hub.above left) =
      ⟨.returned (), hub.above left, [.status .warning (cutShortWarning id notices.length failure)]⟩ :=
    rfl
  simp only [conclude, List.isEmpty_iff, if_neg hnotices]
  exact run_bind_run hwarned (run_applyNotices id monitor notices (hub.above left))

/-- The delivery failed with nothing. -/
theorem run_refresh_empty
    (hdrain : (Platform.drain monitor.source).run platform =
      ⟨.returned ⟨[], some failure⟩, left, reports⟩) :
    (refresh id).run (hub.above platform) = ⟨.failed failure, hub.above left, reports⟩ :=
  (run_refresh_of_drain hmonitor hdrain rfl).trans (congrArg (Outcome.mk _ _) (List.append_nil _))

theorem run_refresh_failed
    (hdrain : (Platform.drain monitor.source).run platform = ⟨.failed failure, left, reports⟩) :
    (refresh id).run (hub.above platform) = ⟨.failed failure, hub.above left, reports⟩ := by
  have habove : (hub.above platform).monitors.get? id = some monitor := hmonitor
  rw [run_refresh habove, ← run_bind, run_bind_failed (run_onPlatform hdrain hub)]

end Refresh

theorem alerts_lines (hub : Hub σ) (id : MonitorId) (changes : List Change) :
    Report.alerts (hub.lines id changes) = [] := by
  refine List.filter_eq_nil_iff.2 fun report hmem => ?_
  obtain ⟨change, -, rfl⟩ := List.mem_map.1 hmem
  exact Bool.false_ne_true

/-! ### One batch and two -/

/-- The later of two rosters counts. -/
theorem adopt_adopt (hub : Hub σ) (id : MonitorId) (monitor : Monitor σ) (registry : Registry)
    (roster later : Roster (Platform.Origin σ)) :
    (hub.adopt id monitor roster).adopt id { monitor with registry } later =
      hub.adopt id monitor later := by
  simp only [adopt, Table.insert_insert]

/-- A monitor after notices. -/
def follower (hub : Hub σ) (id : MonitorId) (monitor : Monitor σ) (notices : List Notice) :
    Monitor σ :=
  { monitor with
    registry := ((monitor.watch id).applyAll (hub.roster monitor) notices).1.registry }

variable (hub id monitor) in
theorem get?_refreshed (notices : List Notice) :
    (hub.refreshed id monitor notices).monitors.get? id = some (hub.follower id monitor notices) :=
  (Table.get?_insert ..).trans (if_pos rfl)

variable (hub id monitor) in
theorem changes_append (first second : List Notice) :
    hub.changes id monitor (first ++ second) = hub.changes id monitor first ++
      (hub.refreshed id monitor first).changes id (hub.follower id monitor first) second :=
  congrArg Prod.snd (Watch.applyAll_append _ _ first second)

variable (hub id monitor) in
/-- Applying notices in two parts comes to applying them at once. -/
theorem refreshed_append (first second : List Notice) :
    hub.refreshed id monitor (first ++ second) =
      (hub.refreshed id monitor first).refreshed id (hub.follower id monitor first) second := by
  have happlied := congrArg Prod.fst (Watch.applyAll_append (monitor.watch id) (hub.roster monitor)
    first second)
  exact (congrArg (hub.adopt id monitor) happlied).trans (adopt_adopt hub id monitor _ _ _).symm

/-- A hub with notices for one of its monitors is in order, with the changes held outside. -/
theorem Sound.refreshed {held : List RecordId} (h : hub.Sound held)
    (hmonitor : hub.monitors.get? id = some monitor) (notices : List Notice) :
    (hub.refreshed id monitor notices).Sound
      ((hub.changes id monitor notices).map Change.record ++ held) := by
  have hunder : hub.monitors.under id (fun monitor => monitor.registry.records) =
      monitor.registry.records := by
    rw [Table.under, hmonitor]
    rfl
  exact h.adopt (h.lt_nextMonitor hmonitor) hunder
    (succeeds_notices (h.registries id monitor hmonitor) h.fresh id notices)

/-- What is known of the devices of changes is still known after more notices. -/
theorem Sound.tell_append {held : List RecordId} (h : hub.Sound held)
    (hmonitor : hub.monitors.get? id = some monitor) (first second : List Notice) :
    (hub.changes id monitor first).map (hub.refreshed id monitor (first ++ second)).records.tell =
      (hub.changes id monitor first).map (hub.refreshed id monitor first).records.tell := by
  -- The changes hold their records, so nothing that a later notice drops is released for good.
  have hmiddle := h.refreshed hmonitor first
  have hkeeps := (succeeds_notices (hmiddle.registries id _ (get?_refreshed hub id monitor first))
    hmiddle.fresh id second).keeps
  rw [refreshed_append]
  refine List.map_congr_left fun change hchange => ?_
  have hheld : change.record ∈ (hub.refreshed id monitor first).holders
      ((hub.changes id monitor first).map Change.record ++ held) :=
    List.mem_append_left _ (List.mem_append_left _ (List.mem_map_of_mem hchange))
  obtain ⟨record, hrecord⟩ := Option.isSome_iff_exists.1 (hmiddle.counts.isSome_of_mem hheld)
  have hinfo : (hub.refreshed id monitor first).records.info? change.record = some record.info :=
    congrArg (Option.map _) hrecord
  exact congrArg (Prod.mk change) ((hkeeps _ _ hinfo).trans hinfo.symm)

end Hub

open Hub

/-- What the operating system makes of announcements does not show in a monitor. Two refreshes, of which
each has a part of some notices delivered, come to one that has them all delivered: the same hub but for
the platform, the same changes, and the same known of their devices. A delivery that was cut short after
some notices comes to one that ended there; the log has one warning more, and what the delivery said of
the failure. A delivery that failed with nothing is a failure of the refresh, which leaves all but the
platform as it was. -/
theorem Scene.refresh_in_batches {σ : Type} [Platform σ] (platform : σ) (deeds : List (Deed σ))
    {id : MonitorId} {monitor : Monitor σ}
    (hmonitor : ((initial platform).run deeds).hub.monitors.get? id = some monitor) :
    let hub := ((initial platform).run deeds).hub
    let drain := (Platform.drain monitor.source : Action σ Drained).run
    (∀ xs ys whole wholeLeft first middle last wholeReports firstReports lastReports,
      drain whole = ⟨.returned { notices := xs ++ ys }, wholeLeft, wholeReports⟩ →
      drain first = ⟨.returned { notices := xs }, middle, firstReports⟩ →
      drain middle = ⟨.returned { notices := ys }, last, lastReports⟩ →
      ∃ (changes more : List Change) (between later : Hub σ),
        (refresh id).Ends (hub.above whole) (.returned (changes ++ more)) (later.above wholeLeft) ∧
        (refresh id).Ends (hub.above first) (.returned changes) (between.above middle) ∧
        (refresh id).Ends (between.above middle) (.returned more) (later.above last) ∧
        (changes ++ more).map later.records.tell =
          changes.map between.records.tell ++ more.map later.records.tell) ∧
    (∀ xs failure whole wholeLeft cut cutLeft wholeReports cutReports, xs ≠ [] →
      drain whole = ⟨.returned { notices := xs }, wholeLeft, wholeReports⟩ →
      drain cut = ⟨.returned ⟨xs, some failure⟩, cutLeft, cutReports⟩ →
      ∃ (changes : List Change) (later : Hub σ) (lines : List Report),
        (refresh id).run (hub.above whole) =
          ⟨.returned changes, later.above wholeLeft, wholeReports ++ lines⟩ ∧
        (refresh id).run (hub.above cut) = ⟨.returned changes, later.above cutLeft,
          cutReports ++ .status .warning (cutShortWarning id xs.length failure) :: lines⟩ ∧
        Report.alerts lines = [] ∧
          ((Platform.drain monitor.source).Says (Ending.alertsWith Drained.failure) →
            Report.alerts wholeReports = [] ∧ Report.alerts cutReports = [.failure failure])) ∧
    ∀ failure cut cutLeft cutReports,
      drain cut = ⟨.returned ⟨[], some failure⟩, cutLeft, cutReports⟩ ∨
        drain cut = ⟨.failed failure, cutLeft, cutReports⟩ →
      (refresh id).run (hub.above cut) = ⟨.failed failure, hub.above cutLeft, cutReports⟩ := by
  intro hub drain
  have hsound : hub.Sound ((initial platform).run deeds).held := sound_run (sound_initial platform) deeds
  refine ⟨?_, ?_, ?_⟩
  · intro xs ys whole wholeLeft first middle last _ _ _ hwhole hfirst hlast
    have hall := run_refresh_delivered hmonitor hwhole
    have hpart := run_refresh_delivered hmonitor hfirst
    have hrest := run_refresh_delivered (get?_refreshed hub id monitor xs) hlast
    rw [changes_append] at hall
    rw [← refreshed_append] at hrest
    refine ⟨_, _, hub.refreshed id monitor xs, hub.refreshed id monitor (xs ++ ys),
      ⟨congrArg Outcome.ending hall, congrArg Outcome.state hall⟩,
      ⟨congrArg Outcome.ending hpart, congrArg Outcome.state hpart⟩,
      ⟨congrArg Outcome.ending hrest, congrArg Outcome.state hrest⟩, ?_⟩
    -- What the first refresh told, it told of the hub between the two.
    rw [List.map_append, hsound.tell_append hmonitor]
  · intro xs failure whole wholeLeft cut cutLeft _ _ hxs hwhole hcut
    refine ⟨_, _, _, run_refresh_delivered hmonitor hwhole, run_refresh_cutShort hmonitor hxs hcut,
      alerts_lines .., fun hsays => ?_⟩
    have hdrain (platform : σ) : Report.alerts (drain platform).reports =
        Ending.alertsWith Drained.failure (drain platform).ending := hsays platform
    have hquiet := hdrain whole
    have hsaid := hdrain cut
    rw [hwhole] at hquiet
    rw [hcut] at hsaid
    exact ⟨hquiet, hsaid⟩
  · rintro failure cut cutLeft _ (hcut | hcut)
    · exact run_refresh_empty hmonitor hcut
    · exact run_refresh_failed hmonitor hcut

/-- A port is pulled out and put back, and pulled out again in the next delivery. With a failure after
the first delivery the same comes out, and a failure before it leaves the hub as it was. -/
theorem Scene.refresh_in_batches_replugged :
    let port : Info :=
      { key := "usb-1", family := .serial, path := "/dev/ttyACM0", vid := 1, pid := 2 }
    let xs : List Notice := [.removed "usb-1", .added port]
    let ys : List Notice := [.removed "usb-1"]
    let about (deliveries : List Delivery) : BackendScript := ⟨[port], deliveries⟩
    let hub := ((initial (about [])).run [.settle () {} ()]).hub
    (hub.monitors.get? 1).isSome = true ∧
      (∃ (changes more : List Change) (between later : Hub BackendScript),
        changes ++ more = [.removed 0, .added 1, .removed 1] ∧
        (refresh 1).Ends (hub.above (about [⟨xs ++ ys, none⟩])) (.returned (changes ++ more))
          (later.above (about [])) ∧
        (refresh 1).Ends (hub.above (about [⟨xs, none⟩, ⟨ys, none⟩])) (.returned changes)
          (between.above (about [⟨ys, none⟩])) ∧
        (refresh 1).Ends (between.above (about [⟨ys, none⟩])) (.returned more)
          (later.above (about []))) ∧
      (∃ (changes : List Change) (later : Hub BackendScript) (lines : List Report),
        (refresh 1).run (hub.above (about [⟨xs, none⟩])) =
          ⟨.returned changes, later.above (about []), lines⟩ ∧
        (refresh 1).run (hub.above (about [⟨xs, some .memory⟩])) =
          ⟨.returned changes, later.above (about []), [.failure .memory] ++
            .status .warning (cutShortWarning 1 2 .memory) :: lines⟩) ∧
      (refresh 1).run (hub.above (about [⟨[], some .memory⟩])) =
        ⟨.failed .memory, hub.above (about []), [.failure .memory]⟩ := by
  intro port xs ys about hub
  have hthere : (hub.monitors.get? 1).isSome = true := by decide
  obtain ⟨monitor, hmonitor⟩ := Option.isSome_iff_exists.1 hthere
  obtain ⟨htwo, hcut, hnothing⟩ := refresh_in_batches (about []) [.settle () {} ()] hmonitor
  refine ⟨hthere, ?_, ?_, hnothing .memory _ _ _ (.inl rfl)⟩
  · obtain ⟨changes, more, between, later, hall, hpart, hrest, -⟩ :=
      htwo xs ys (about [⟨xs ++ ys, none⟩]) (about []) (about [⟨xs, none⟩, ⟨ys, none⟩])
        (about [⟨ys, none⟩]) (about []) [] [] [] rfl rfl rfl
    have hchanges : ((refresh 1).run (hub.above (about [⟨xs ++ ys, none⟩]))).ending =
        .returned [.removed 0, .added 1, .removed 1] := by decide +kernel
    have heq := Ending.returned.inj (hall.1.symm.trans hchanges)
    exact ⟨changes, more, between, later, heq, hall, hpart, hrest⟩
  · obtain ⟨changes, later, lines, hwhole, hfailed, -⟩ :=
      hcut xs .memory (about [⟨xs, none⟩]) (about []) (about [⟨xs, some .memory⟩]) (about [])
        [] [.failure .memory] (List.cons_ne_nil _ _) rfl rfl
    exact ⟨changes, later, lines, hwhole, hfailed⟩

end Hotplug
