import Hotplug.Proofs.Hub.Registry
import Hotplug.Proofs.Hub.Steps
/-!
# Hubs in order

A hub is in order if every reference to a record belongs to a monitor, to a handle or to someone
outside, if names are never given twice, and if every registry is in order. The operations of a hub
leave it so.

## Main definitions

* `Hotplug.Hub.holders`: what the monitors and handles of a hub hold.
* `Hotplug.Hub.Sound`: a hub in order, with what is held outside.

## Main statements

* `Hotplug.Hub.Sound.adopt`, `Hotplug.Hub.Sound.begun`, `Hotplug.Hub.Sound.ended`,
  `Hotplug.Hub.Sound.opened`, `Hotplug.Hub.Sound.closed`
-/

namespace Hotplug

/-- A registry stays in order as long as what is known of its records does. -/
theorem Roster.Sound.of_info? {ω : Type} {registry : Registry} {records later : Records ω}
    {filter : Filter} (h : Roster.Sound ⟨registry, records⟩ filter)
    (hinfo : ∀ id ∈ registry.records, later.info? id = records.info? id) :
    Roster.Sound ⟨registry, later⟩ filter := by
  refine ⟨h.identities, h.records, fun entry hentry => ?_⟩
  obtain ⟨info, hknown, hrest⟩ := h.known entry hentry
  exact ⟨info, (hinfo entry.2 (List.mem_map_of_mem hentry)).trans hknown, hrest⟩

/-- The empty registry is in order. -/
theorem Roster.Sound.empty {ω : Type} (records : Records ω) (filter : Filter) :
    Roster.Sound ⟨{}, records⟩ filter :=
  ⟨.nil, .nil, nofun⟩

/-- A registry stays in order when records are added. -/
theorem Roster.Sound.extend {ω : Type} {registry : Registry} {records later : Records ω}
    {filter : Filter} (h : Roster.Sound ⟨registry, records⟩ filter) (hkeeps : later.Extends records) :
    Roster.Sound ⟨registry, later⟩ filter := by
  refine h.of_info? fun id hid => ?_
  obtain ⟨info, hinfo⟩ := h.info?_of_mem hid
  exact (hkeeps _ _ hinfo).trans hinfo.symm

variable {σ : Type} [Platform σ]

namespace Hub

/-- What the handles of a hub hold. -/
def handled (hub : Hub σ) : List RecordId :=
  hub.handles.values.flatMap fun handle => [handle.record]

/-- What the monitors of a hub hold. -/
def watched (hub : Hub σ) : List RecordId :=
  hub.monitors.values.flatMap fun monitor => monitor.registry.records

/-- What is held of the records of a hub, if some are held outside. -/
def holders (held : List RecordId) (hub : Hub σ) : List RecordId :=
  held ++ (hub.handled ++ hub.watched)

/-- A hub in order. Some records are held outside of it. -/
structure Sound (held : List RecordId) (hub : Hub σ) : Prop where
  fresh : hub.records.Fresh
  counts : hub.records.Counts (hub.holders held)
  monitorKeys : hub.monitors.keys.Nodup
  handleKeys : hub.handles.keys.Nodup
  /-- No monitor has a name that is still to be given. -/
  newMonitor : ∀ id, hub.nextMonitor ≤ id → hub.monitors.get? id = none
  /-- No handle has a name that is still to be given. -/
  newHandle : ∀ id, hub.nextHandle ≤ id → hub.handles.get? id = none
  registries : ∀ id monitor, hub.monitors.get? id = some monitor →
    (hub.roster monitor).Sound monitor.filter

/-- Notices for a monitor whose registry is in order. -/
theorem succeeds_notices {hub : Hub σ} {monitor : Monitor σ}
    (hsound : (hub.roster monitor).Sound monitor.filter) (hfresh : hub.records.Fresh)
    (id : MonitorId) (notices : List Notice) :
    let result := (monitor.watch id).applyAll (hub.roster monitor) notices
    (hub.roster monitor).Succeeds monitor.filter result.1 result.2 :=
  @Watch.succeeds_applyAll _ (monitor.watch id) (hub.roster monitor) hsound hfresh notices

namespace Sound

variable {held : List RecordId} {hub : Hub σ}

/-- The platform has no part in it. -/
theorem above (h : hub.Sound held) (platform : σ) : (hub.above platform).Sound held :=
  ⟨h.fresh, h.counts, h.monitorKeys, h.handleKeys, h.newMonitor, h.newHandle, h.registries⟩

theorem lt_nextMonitor (h : hub.Sound held) {id : MonitorId} {monitor : Monitor σ}
    (hmonitor : hub.monitors.get? id = some monitor) : id < hub.nextMonitor := by
  refine Nat.lt_of_not_le fun hle => ?_
  rw [h.newMonitor id hle] at hmonitor
  cases hmonitor

theorem mem_holders (held : List RecordId) {id : MonitorId} {monitor : Monitor σ}
    (hmonitor : hub.monitors.get? id = some monitor) {record : RecordId}
    (hrecord : record ∈ monitor.registry.records) : record ∈ hub.holders held := by
  refine List.mem_append_right _ (List.mem_append_right _ ?_)
  exact List.mem_flatMap.2 ⟨monitor, Table.mem_values_of_get? hmonitor, hrecord⟩

/-- What is held outside can be given back. -/
theorem release {ids : List RecordId} (h : hub.Sound (ids ++ held)) :
    ({ hub with records := hub.records.releaseAll ids } : Hub σ).Sound held := by
  have hcounts : hub.records.Counts (ids ++ hub.holders held) := by
    rw [holders, ← List.append_assoc]
    exact h.counts
  obtain ⟨hreleased, hinfo⟩ := hcounts.releaseAll
  refine ⟨h.fresh.releaseAll ids, hreleased, h.monitorKeys, h.handleKeys, h.newMonitor, h.newHandle,
    fun id monitor hmonitor => (h.registries id monitor hmonitor).of_info? fun record hrecord => ?_⟩
  exact hinfo record (mem_holders held hmonitor hrecord)

/-- Whoever can name a record can take a reference to it. -/
theorem retain (h : hub.Sound held) {id : RecordId} (hid : (hub.records.get? id).isSome = true) :
    ({ hub with records := hub.records.retain id } : Hub σ).Sound (id :: held) :=
  ⟨h.fresh.retain id, h.counts.retain hid, h.monitorKeys, h.handleKeys, h.newMonitor, h.newHandle,
    fun id monitor hmonitor => (h.registries id monitor hmonitor).of_info? fun _ _ =>
      Records.info?_retain ..⟩

theorem createAll (h : hub.Sound held) (origin : Platform.Origin σ) (infos : List Info) :
    ({ hub with records := (hub.records.createAll origin none infos).2 } : Hub σ).Sound
      ((hub.records.createAll origin none infos).1 ++ held) := by
  obtain ⟨hcounts, hfresh, hkeeps⟩ := h.counts.createAll h.fresh origin none infos
  refine ⟨hfresh, hcounts.of_count_eq fun id => ?_, h.monitorKeys, h.handleKeys, h.newMonitor,
    h.newHandle, fun id monitor hmonitor => ?_⟩
  · rw [holders, holders, List.append_assoc]
    rfl
  · exact (h.registries id monitor hmonitor).extend hkeeps

/-- A monitor can be given another roster that succeeds its own. -/
theorem adopt (h : hub.Sound held) {id : MonitorId} {monitor : Monitor σ}
    {roster : Roster (Platform.Origin σ)} {changes : List Change} (hid : id < hub.nextMonitor)
    (hunder : hub.monitors.under id (fun monitor => monitor.registry.records) =
      monitor.registry.records)
    (hroster : (hub.roster monitor).Succeeds monitor.filter roster changes) :
    (hub.adopt id monitor roster).Sound (changes.map Change.record ++ held) := by
  refine ⟨hroster.fresh, ?_, Table.nodup_keys_insert h.monitorKeys .., h.handleKeys,
    fun other hother => ?_, h.newHandle, fun other watching hwatching => ?_⟩
  · -- What the other monitors hold is what there is without this one.
    have hothers : hub.records.Counts (monitor.registry.records ++ (held ++ (hub.handled ++
        (hub.monitors.erase id).values.flatMap fun monitor => monitor.registry.records))) := by
      refine h.counts.of_count_eq fun record => ?_
      have hcount := Table.count_erase h.monitorKeys id
        (fun monitor => monitor.registry.records) record
      rw [hunder] at hcount
      simp only [holders, watched, List.count_append, ← hcount]
      omega
    refine (hroster.counts _ hothers).of_count_eq fun record => ?_
    have herased := Table.count_erase h.monitorKeys id
      (fun monitor => monitor.registry.records) record
    have hinserted := Table.count_insert hub.monitors id
      { monitor with registry := roster.registry } (fun monitor => monitor.registry.records) record
    simp only [holders, watched, handled, Hub.adopt, List.count_append] at hinserted ⊢
    omega
  · have hne : other ≠ id := Nat.ne_of_gt (Nat.lt_of_lt_of_le hid hother)
    change (hub.monitors.insert id _).get? other = none
    rw [Table.get?_insert, if_neg hne]
    exact h.newMonitor other hother
  · change (hub.monitors.insert id _).get? other = some watching at hwatching
    rw [Table.get?_insert] at hwatching
    split at hwatching
    · cases hwatching
      exact hroster.sound
    · exact (h.registries other watching hwatching).extend hroster.keeps

theorem begun (h : hub.Sound held) (origin : Platform.Origin σ) (filter : Filter)
    (source : Platform.Source σ) (found : List Info) :
    (hub.begun { origin, filter, source } found).Sound held := by
  have hnamed : ({ hub with nextMonitor := hub.nextMonitor + 1 } : Hub σ).Sound held :=
    ⟨h.fresh, h.counts, h.monitorKeys, h.handleKeys,
      fun id hid => h.newMonitor id (Nat.le_of_succ_le hid), h.newHandle, h.registries⟩
  have hunder : hub.monitors.under hub.nextMonitor (fun monitor => monitor.registry.records) =
      ({ origin, filter, source } : Monitor σ).registry.records := by
    rw [Table.under, h.newMonitor _ (Nat.le_refl _)]
    rfl
  exact (hnamed.adopt (Nat.lt_succ_self _) hunder
    (succeeds_notices (.empty hub.records filter) h.fresh hub.nextMonitor (found.map .added))).release

theorem ended (h : hub.Sound held) {id : MonitorId} {monitor : Monitor σ}
    (hmonitor : hub.monitors.get? id = some monitor) : (hub.ended id monitor).Sound held := by
  have herased : ({ hub with monitors := hub.monitors.erase id } : Hub σ).Sound
      (monitor.registry.records ++ held) := by
    refine ⟨h.fresh, h.counts.of_count_eq fun record => ?_, Table.nodup_keys_erase h.monitorKeys id,
      h.handleKeys, fun other hother => ?_, h.newHandle, fun other watching hwatching => ?_⟩
    · have hcount := Table.count_erase h.monitorKeys id
        (fun monitor => monitor.registry.records) record
      rw [Table.under, hmonitor, Option.map_some, Option.getD_some] at hcount
      simp only [holders, handled, watched, List.count_append, ← hcount]
      omega
    · rw [Table.get?_erase]
      split
      · rfl
      · exact h.newMonitor other hother
    · rw [Table.get?_erase] at hwatching
      split at hwatching
      · cases hwatching
      · exact h.registries other watching hwatching
  exact herased.release

theorem opened (h : hub.Sound held) {id : RecordId} (hid : (hub.records.get? id).isSome = true)
    (channel : Platform.Channel σ) : (hub.opened id channel).Sound held := by
  have hretained := h.retain hid
  refine ⟨hretained.fresh, hretained.counts.of_count_eq fun record => ?_, h.monitorKeys,
    Table.nodup_keys_insert h.handleKeys .., h.newMonitor, fun other hother => ?_,
    hretained.registries⟩
  · have hcount := Table.count_insert hub.handles hub.nextHandle ⟨id, channel⟩
      (fun handle => [handle.record]) record
    rw [Table.under, h.newHandle _ (Nat.le_refl _), Option.map_none, Option.getD_none,
      List.count_nil] at hcount
    simp only [holders, handled, watched, Hub.opened, List.cons_append, List.count_cons,
      List.count_append, List.count_nil] at hcount ⊢
    omega
  · change (hub.handles.insert hub.nextHandle _).get? other = none
    rw [Table.get?_insert, if_neg (Nat.ne_of_gt (Nat.lt_of_succ_le hother))]
    exact h.newHandle other (Nat.le_of_succ_le hother)

theorem closed (h : hub.Sound held) {id : HandleId} {handle : Handle σ}
    (hhandle : hub.handles.get? id = some handle) : (hub.closed id handle).Sound held := by
  have herased : ({ hub with handles := hub.handles.erase id } : Hub σ).Sound
      ([handle.record] ++ held) := by
    refine ⟨h.fresh, h.counts.of_count_eq fun record => ?_, h.monitorKeys,
      Table.nodup_keys_erase h.handleKeys id, h.newMonitor, fun other hother => ?_, h.registries⟩
    · have hcount := Table.count_erase h.handleKeys id (fun handle => [handle.record]) record
      rw [Table.under, hhandle, Option.map_some, Option.getD_some] at hcount
      simp only [holders, handled, watched, List.count_append, ← hcount]
      omega
    · rw [Table.get?_erase]
      split
      · rfl
      · exact h.newHandle other hother
  exact herased.release

end Sound

end Hub

end Hotplug
