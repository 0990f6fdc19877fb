import Hotplug.Proofs.Hub.Tending
/-!
# The life of a record

A record comes in online. It is disconnected when a refresh returns its removal, and stays so; a device
that comes back gets a new record. What a search found, and what a monitor that ended leaves behind,
changes no more.

## Main definitions

* `Hotplug.Deed.appearances`: the records under which devices appear.
* `Hotplug.Scene.LifeCycle`: what becomes of records.

## Main statements

* `Hotplug.Scene.Evolves.unchanged`: what nobody can take out changes only its references.
* `Hotplug.Scene.life_cycle`
-/

namespace Hotplug

theorem Change.mem_filterMap_removed? {changes : List Change} {id : RecordId} :
    id ∈ changes.filterMap removed? ↔ removed id ∈ changes := by
  rw [List.mem_filterMap]
  constructor
  · rintro ⟨change, hchange, heq⟩
    cases change with
    | added _ => cases heq
    | removed _ =>
      cases heq
      exact hchange
  · exact fun hgone => ⟨_, hgone, rfl⟩

namespace Watch

variable {ω : Type} {watch : Watch ω} {roster : Roster ω}

/-- What is listed in the end was listed before or came in. -/
theorem mem_records_applyAll (hsound : roster.Sound watch.filter) (hfresh : roster.records.Fresh)
    (notices : List Notice) {id : RecordId}
    (hid : id ∈ (watch.applyAll roster notices).1.registry.records) :
    id ∈ roster.registry.records ∨
      id ∈ (watch.applyAll roster notices).2.filterMap Change.added? := by
  induction notices generalizing roster with
  | nil => exact .inl hid
  | cons notice rest ih =>
    have hstep := succeeds_apply hsound hfresh notice
    change _ ∨ id ∈ ((watch.apply roster notice).2 ++ _).filterMap Change.added?
    rw [List.filterMap_append, List.mem_append]
    rcases ih hstep.sound hstep.fresh hid with hkept | hlater
    · cases notice with
      | added info =>
        change id ∈ (watch.appear roster info).1.registry.records at hkept
        by_cases h : watch.filter.passes info = true ∧
          (roster.registry.find? info.identity).isNone = true
        · rw [appear_of_absent h.1 h.2] at hkept
          have hperm := Registry.perm_records_insert h.2 roster.records.next
          rcases List.mem_cons.1 (hperm.mem_iff.1 hkept) with rfl | hold
          · refine .inr (.inl ?_)
            change _ ∈ (watch.appear roster info).2.filterMap Change.added?
            rw [appear_of_absent h.1 h.2]
            exact List.mem_singleton_self _
          · exact .inl hold
        · rw [appear_of_not h] at hkept
          exact .inl hkept
      | removed key =>
        exact .inl ((Registry.perm_records_without roster.registry key).subset
          (List.mem_append_right _ hkept))
    · exact .inr (.inr hlater)

end Watch

variable {σ : Type} [Platform σ]

/-- The records under which devices appear in a deed: those that a refresh brings in, those that a
monitor starts with, and those that a search finds. -/
def Deed.appearances (scene : Scene σ) : Deed σ → List RecordId
  | refresh id => (scene.changes id).filterMap Change.added?
  | settle origin filter source =>
    let out := (Hub.settle origin filter source).run scene.hub
    ((out.ending.value?.bind out.state.monitors.get?).map (·.registry.records)).getD []
  | enumerate origin filter =>
    ((Hub.enumerate origin filter).run scene.hub).ending.value?.getD []
  | _ => []

namespace Scene

variable {scene later : Scene σ} {gone : List RecordId}

/-- What appears gets a name that was not given before. -/
theorem next_le_of_appears (h : scene.Sound) {deed : Deed σ} {id : RecordId}
    (hid : id ∈ deed.appearances scene) : scene.hub.records.next ≤ id := by
  cases deed with
  | refresh monitor =>
    cases Hub.refresh_cases monitor scene.hub with
    | absent failure hnone hends =>
      rw [Deed.appearances, changes_eq hends] at hid
      cases hid
    | nothing _ ending _ hending _ hends =>
      rw [Deed.appearances, changes_eq hends, hending] at hid
      cases hid
    | delivered watching drained hwatching _ _ hends =>
      rw [Deed.appearances, changes_eq hends] at hid
      exact ((Hub.succeeds_notices (h.registries monitor watching hwatching) h.fresh monitor
        drained.notices).added id hid).1
  | settle origin filter source =>
    cases Hub.settle_cases origin filter source scene.hub with
    | started found hfound hends =>
      have hnew : ((scene.hub.above ((Platform.enumerate origin filter).run
          scene.hub.platform).state).begun { origin, filter, source } found).monitors.get?
            scene.hub.nextMonitor = _ := (Table.get?_insert ..).trans (if_pos rfl)
      rw [Deed.appearances, hends.1, hends.2] at hid
      change id ∈ ((((scene.hub.above ((Platform.enumerate origin filter).run
        scene.hub.platform).state).begun { origin, filter, source } found).monitors.get?
          scene.hub.nextMonitor).map _).getD [] at hid
      rw [hnew] at hid
      -- The monitor lists nothing before the devices found appear.
      let monitor : Monitor σ := { origin, filter, source }
      have hempty : (scene.hub.roster monitor).Sound (monitor.watch scene.hub.nextMonitor).filter :=
        .empty scene.hub.records filter
      rcases Watch.mem_records_applyAll hempty h.fresh (found.map .added) hid with hnone | hadded
      · cases hnone
      · exact ((Hub.succeeds_notices hempty h.fresh scene.hub.nextMonitor
          (found.map .added)).added id hadded).1
    | failed failure hends =>
      rw [Deed.appearances, hends.1] at hid
      cases hid
    | unending hends =>
      rw [Deed.appearances, hends.1] at hid
      cases hid
  | enumerate origin filter =>
    cases Hub.enumerate_cases origin filter scene.hub with
    | nothing ending hending hends =>
      rw [Deed.appearances, hends.1, hending] at hid
      cases hid
    | found infos hends =>
      rw [Deed.appearances, hends.1] at hid
      exact (Records.get?_of_mem_createAll _ _ _ _ id hid).1
  | _ => cases hid

/-- A record that is there before and after changed its references, and its status if it was taken out. -/
theorem Evolves.after_eq (h : scene.Evolves later gone) (hsound : scene.Sound) {id : RecordId}
    {record after : DeviceRecord (Platform.Origin σ)}
    (hrecord : scene.hub.records.get? id = some record)
    (hafter : later.hub.records.get? id = some after) :
    after = { record with
      refs := after.refs
      status := if id ∈ gone then .disconnected else record.status } := by
  obtain ⟨same, hsame, heq⟩ :=
    h.records.old id (hsound.fresh.lt_next_of_get? hrecord) after hafter
  cases hrecord.symm.trans hsame
  exact heq

/-- A record that no monitor can take out any more changes only its references. -/
theorem Evolves.unchanged (h : scene.Evolves later gone) (hsound : scene.Sound) {id : RecordId}
    {record after : DeviceRecord (Platform.Origin σ)}
    (hrecord : scene.hub.records.get? id = some record)
    (hapart : ∀ monitor, record.monitor = some monitor → ¬scene.Able monitor)
    (hafter : later.hub.records.get? id = some after) :
    after = { record with refs := after.refs } := by
  have heq := h.after_eq hsound hrecord hafter
  have hmonitor : after.monitor = record.monitor := by rw [heq]
  have hnot : id ∉ gone := by
    intro hgone
    obtain ⟨monitor, htaken, hable, -⟩ := h.records.taken id hgone after hafter
    exact hapart monitor (hmonitor.symm.trans htaken) hable
  rw [if_neg hnot] at heq
  exact heq

/-- A record that is disconnected stays so, and changes only its references. -/
theorem Evolves.disconnected (h : scene.Evolves later gone) (hsound : scene.Sound) {id : RecordId}
    {record after : DeviceRecord (Platform.Origin σ)}
    (hrecord : scene.hub.records.get? id = some record) (hstatus : record.status = .disconnected)
    (hafter : later.hub.records.get? id = some after) :
    after = { record with refs := after.refs } := by
  have heq := h.after_eq hsound hrecord hafter
  rw [hstatus, ite_self, ← hstatus] at heq
  exact heq

end Scene

theorem Hub.run_record {hub : Hub σ} {id : RecordId} {record : DeviceRecord (Platform.Origin σ)}
    (h : hub.records.get? id = some record) :
    (Hub.record id).run hub = ⟨.returned record, hub, []⟩ := by
  rw [Hub.record, Action.run_bind_returned (Action.run_get hub), h]
  rfl

/-- A disconnected record cannot be opened, and the platform is not asked. -/
theorem Hub.run_open_of_disconnected {hub : Hub σ} {id : RecordId}
    {record : DeviceRecord (Platform.Origin σ)} (h : hub.records.get? id = some record)
    (hstatus : record.status = .disconnected) :
    let failure := Failure.notFound ("Device '" ++ record.info.path ++ "' is disconnected")
    (Hub.open_ id).run hub = ⟨.failed failure, hub, [.failure failure]⟩ := by
  rw [Hub.open_, Action.run_bind_returned (Hub.run_record h), if_pos (by rw [hstatus]; decide)]
  rfl

namespace Scene

/-- What becomes of records after some deeds. -/
structure LifeCycle (platform : σ) (sooner : List (Deed σ)) (scene : Scene σ) : Prop where
  /-- A record is disconnected exactly if a refresh returned its removal. -/
  gone_iff : ∀ id record, scene.hub.records.get? id = some record →
    (record.status = .disconnected ↔ .removed id ∈ (initial platform).told sooner)
  /-- Then it stays so, and only its references change. -/
  stays : ∀ id record, scene.hub.records.get? id = some record → record.status = .disconnected →
    ∀ deeds after, (scene.run deeds).hub.records.get? id = some after →
      after = { record with refs := after.refs }
  /-- No monitor lists it, now or later. -/
  unlisted : ∀ id record, scene.hub.records.get? id = some record →
    record.status = .disconnected → ∀ deeds name monitor,
      (scene.run deeds).hub.monitors.get? name = some monitor → id ∉ monitor.registry.records
  /-- What appears next has a name that no record had before. -/
  anew : ∀ deed : Deed σ, ∀ id ∈ deed.appearances scene, ∀ earlier, earlier <+: sooner →
    ((initial platform).run earlier).hub.records.get? id = none
  /-- What no running monitor made stays as it is; only its references change. -/
  apart : ∀ id record, scene.hub.records.get? id = some record →
    (∀ monitor, record.monitor = some monitor → scene.hub.monitors.get? monitor = none) →
      ∀ deeds after, (scene.run deeds).hub.records.get? id = some after →
        after = { record with refs := after.refs }
  /-- What a search finds is made by no monitor. -/
  searched : ∀ origin filter, ∀ id ∈ (Deed.enumerate origin filter).appearances scene,
    ∃ record, ((Deed.enumerate origin filter).act scene).hub.records.get? id = some record ∧
      record.status = .online ∧ record.monitor = none
  /-- A disconnected record cannot be opened, and the platform is not asked. -/
  refused : ∀ id record, scene.hub.records.get? id = some record → record.status = .disconnected →
    let failure := Failure.notFound ("Device '" ++ record.info.path ++ "' is disconnected")
    (Hub.open_ id).run scene.hub = ⟨.failed failure, scene.hub, [.failure failure]⟩

variable {scene : Scene σ}

theorem made_before (platform : σ) (deeds : List (Deed σ)) {id : RecordId}
    {record : DeviceRecord (Platform.Origin σ)}
    (h : ((initial platform).run deeds).hub.records.get? id = some record) {monitor : MonitorId}
    (hmonitor : record.monitor = some monitor) :
    monitor < ((initial platform).run deeds).hub.nextMonitor := by
  obtain ⟨hevolves, -⟩ := evolves_run (sound_initial platform) (tended_initial platform) deeds
  exact ((hevolves.records.new id (Nat.zero_le id) record h).2 monitor hmonitor).2

theorem searched (scene : Scene σ) (origin : Platform.Origin σ) (filter : Filter) {id : RecordId}
    (hid : id ∈ (Deed.enumerate origin filter).appearances scene) :
    ∃ record, ((Deed.enumerate origin filter).act scene).hub.records.get? id = some record ∧
      record.status = .online ∧ record.monitor = none := by
  cases Hub.enumerate_cases origin filter scene.hub with
  | nothing ending hending hends =>
    rw [Deed.appearances, hends.1, hending] at hid
    cases hid
  | found infos hends =>
    rw [Deed.appearances, hends.1] at hid
    rw [Deed.act, after_eq hends]
    obtain ⟨-, info, -, hget⟩ := Records.get?_of_mem_createAll _ _ _ _ id hid
    exact ⟨_, hget, rfl, rfl⟩

/-- Over any number of monitors, searches, handles and refreshes, failing or not: this becomes of the
records. -/
theorem life_cycle (platform : σ) (sooner : List (Deed σ)) :
    LifeCycle platform sooner ((initial platform).run sooner) := by
  have hsound : ((initial platform).run sooner).Sound := sound_run (sound_initial platform) sooner
  obtain ⟨hfirst, htended⟩ := evolves_run (sound_initial platform) (tended_initial platform) sooner
  constructor
  case gone_iff =>
    intro id record hrecord
    obtain ⟨hstatus, -⟩ := hfirst.records.new id (Nat.zero_le id) record hrecord
    rw [hstatus, ← Change.mem_filterMap_removed?]
    split
    · next hgone => simp [hgone]
    · next hnot => simp [hnot]
  case stays =>
    intro id record hrecord hstatus deeds after hafter
    exact (evolves_run hsound htended deeds).1.disconnected hsound hrecord hstatus hafter
  case unlisted =>
    -- What a monitor lists is online, and the record is not.
    intro id record hrecord hstatus deeds name monitor hmonitor hid
    obtain ⟨hevolves, hkept⟩ := evolves_run hsound htended deeds
    obtain ⟨after, hafter, honline, -⟩ := (hkept name monitor hmonitor).listed id hid
    have heq := hevolves.disconnected hsound hrecord hstatus hafter
    rw [heq] at honline
    cases hstatus.symm.trans honline
  case anew =>
    -- Names are given in ascending order, and what appears gets the next ones.
    intro deed id hid earlier hearlier
    obtain ⟨rest, rfl⟩ := hearlier
    have hsooner := sound_run (sound_initial platform) earlier
    have hcontinues := continues_run hsooner rest
    rw [← run_append] at hcontinues
    exact hsooner.fresh id (Nat.le_trans hcontinues.next_le (next_le_of_appears hsound hid))
  case apart =>
    -- The monitor that made the record has ended, and those that start later have other names.
    intro id record hrecord hapart deeds after hafter
    refine (evolves_run hsound htended deeds).1.unchanged hsound hrecord ?_ hafter
    rintro monitor hmonitor (hruns | hcomes)
    · rw [hapart monitor hmonitor] at hruns
      cases hruns
    · exact Nat.lt_irrefl _ (Nat.lt_of_lt_of_le (made_before platform sooner hrecord hmonitor) hcomes)
  case searched =>
    exact fun origin filter id hid => searched _ origin filter hid
  case refused =>
    exact fun id record hrecord hstatus => Hub.run_open_of_disconnected hrecord hstatus

end Scene

end Hotplug
