import Hotplug.Hub.View
import Hotplug.Proofs.Hub.Evolution
/-!
# Monitors keep their registries

A running monitor lists the devices that are there and that it wants, each under its own identity and
in the order of identities, with records that it made itself. No other monitor lists any of them.

## Main definitions

* `Hotplug.Scene.Tended`: every monitor keeps its registry.
* `Hotplug.Scene.told`: the changes that refreshes return in a run.
* `Hotplug.Scene.Evolves`: how a scene goes with a later one.
* `Hotplug.Hub.Lists`: what a monitor lists.

## Main statements

* `Hotplug.Deed.evolves`, `Hotplug.Scene.evolves_run`: one deed, and any number.
* `Hotplug.Scene.monitors_list`: what monitors list at any time.
-/

namespace Hotplug

variable {σ : Type} [Platform σ]

/-- The changes that a deed returns; only refreshes return some. -/
def Deed.told (scene : Scene σ) : Deed σ → List Change
  | refresh id => scene.changes id
  | _ => []

namespace Scene

/-- Every monitor keeps its registry. -/
def Tended (scene : Scene σ) : Prop :=
  ∀ id monitor, scene.hub.monitors.get? id = some monitor → (scene.hub.roster monitor).Tended id

/-- A monitor that runs, or that is still to start. -/
def Able (scene : Scene σ) (id : MonitorId) : Prop :=
  (scene.hub.monitors.get? id).isSome = true ∨ scene.hub.nextMonitor ≤ id

/-- The changes that the refreshes of a run return. -/
def told : Scene σ → List (Deed σ) → List Change
  | _, [] => []
  | scene, deed :: rest => deed.told scene ++ (deed.act scene).told rest

/-- A later scene, and the records that were taken out on the way there. -/
structure Evolves (scene later : Scene σ) (gone : List RecordId) : Prop where
  /-- Records are made and taken out by monitors that run or start on the way. -/
  records : scene.hub.records.Evolves later.hub.records gone fun id =>
    scene.Able id ∧ id < later.hub.nextMonitor
  next_le : scene.hub.nextMonitor ≤ later.hub.nextMonitor
  /-- No monitor that ended comes back. -/
  able : ∀ id, later.Able id → scene.Able id

variable {scene middle later : Scene σ} {gone more : List RecordId}

protected theorem Evolves.refl (h : scene.Sound) : scene.Evolves scene [] :=
  ⟨.refl h.fresh, Nat.le_refl _, fun _ h => h⟩

theorem Evolves.trans (h : scene.Evolves middle gone) (h' : middle.Evolves later more) :
    scene.Evolves later (gone ++ more) where
  records :=
    (h.records.mono fun _ ⟨hable, hlt⟩ => ⟨hable, Nat.lt_of_lt_of_le hlt h'.next_le⟩).trans
      (h'.records.mono fun id ⟨hable, hlt⟩ => ⟨h.able id hable, hlt⟩)
  next_le := Nat.le_trans h.next_le h'.next_le
  able := fun id hable => h.able id (h'.able id hable)

/-- The agents of one deed keep their registries themselves, and leave those of the others alone. -/
theorem evolves_of_agents {agents : MonitorId → Prop} (h : scene.Sound) (htended : scene.Tended)
    (hlater : later.Sound)
    (hrecords : scene.hub.records.Evolves later.hub.records gone agents)
    (hnext : scene.hub.nextMonitor ≤ later.hub.nextMonitor)
    (hagents : ∀ id, agents id → scene.Able id ∧ id < later.hub.nextMonitor)
    (hmonitors : ∀ id monitor, later.hub.monitors.get? id = some monitor →
      (scene.hub.monitors.get? id = some monitor ∧ ¬agents id) ∨
        (agents id ∧ (later.hub.roster monitor).Tended id)) :
    scene.Evolves later gone ∧ later.Tended := by
  refine ⟨⟨hrecords.mono hagents, hnext, fun id hable => ?_⟩, fun id monitor hmonitor => ?_⟩
  · -- A monitor that runs later ran before, or is an agent and was able to.
    rcases hable with hruns | hcomes
    · obtain ⟨monitor, hmonitor⟩ := Option.isSome_iff_exists.1 hruns
      rcases hmonitors id monitor hmonitor with ⟨hold, -⟩ | ⟨hagent, -⟩
      · exact .inl (Option.isSome_iff_exists.2 ⟨monitor, hold⟩)
      · exact (hagents id hagent).1
    · exact .inr (Nat.le_trans hnext hcomes)
  · rcases hmonitors id monitor hmonitor with ⟨hold, hnot⟩ | ⟨-, hkept⟩
    · refine (htended id monitor hold).evolve h.fresh hrecords hnot fun record hrecord =>
        (hlater.registries id monitor hmonitor).isSome_of_mem hrecord
    · exact hkept

/-- A deed that leaves the monitors as they are. -/
theorem evolves_of_monitors (h : scene.Sound) (htended : scene.Tended) (hlater : later.Sound)
    (hrecords : scene.hub.records.Evolves later.hub.records [] fun _ => False)
    (hnext : later.hub.nextMonitor = scene.hub.nextMonitor)
    (hmonitors : later.hub.monitors = scene.hub.monitors) :
    scene.Evolves later [] ∧ later.Tended :=
  evolves_of_agents h htended hlater hrecords (Nat.le_of_eq hnext.symm) nofun
    fun _ _ hmonitor => .inl ⟨hmonitors ▸ hmonitor, not_false⟩

end Scene

namespace Deed

variable {scene : Scene σ}

theorem evolves_settle (h : scene.Sound) (htended : scene.Tended) (origin : Platform.Origin σ)
    (filter : Filter) (source : Platform.Source σ) :
    scene.Evolves ((settle origin filter source).act scene) [] ∧
      ((settle origin filter source).act scene).Tended := by
  have hlater := (step h (settle origin filter source)).sound
  cases Hub.settle_cases origin filter source scene.hub with
  | started found hfound hends =>
    rw [act, Scene.after_eq_of_nil hends] at hlater ⊢
    let monitor : Monitor σ := { origin, filter, source }
    let id := scene.hub.nextMonitor
    have hempty : (scene.hub.roster monitor).Sound (monitor.watch id).filter :=
      .empty scene.hub.records filter
    have hsucceeds := Watch.succeeds_applyAll hempty h.fresh (found.map .added)
    obtain ⟨hcame, hkept⟩ := Watch.evolves_applyAll hempty h.fresh
      (.empty scene.hub.records id) (found.map .added)
    rw [Watch.removed?_applyAll_added] at hcame
    -- The references that the changes had are given back.
    refine Scene.evolves_of_agents h htended hlater
      (hcame.trans (.releaseAll hsucceeds.fresh _)) (Nat.le_succ _) ?_ ?_
    · rintro _ rfl
      exact ⟨.inr (Nat.le_refl _), Nat.lt_succ_self _⟩
    · intro other watching hwatching
      have hthere := hlater.registries other watching hwatching
      replace hwatching := (Table.get?_insert ..).symm.trans hwatching
      split at hwatching
      · next heq =>
        subst heq
        cases hwatching
        exact .inr ⟨rfl, hkept.released hsucceeds.fresh _ fun record hrecord =>
          hthere.isSome_of_mem hrecord⟩
      · next hne => exact .inl ⟨hwatching, hne⟩
  | failed failure hends =>
    rw [act, Scene.after_eq_of_nil hends] at hlater ⊢
    exact Scene.evolves_of_monitors h htended hlater (.refl h.fresh) rfl rfl
  | unending hends =>
    rw [act, Scene.after_eq_of_nil hends] at hlater ⊢
    exact Scene.evolves_of_monitors h htended hlater (.refl h.fresh) rfl rfl

theorem evolves_refresh (h : scene.Sound) (htended : scene.Tended) (id : MonitorId) :
    scene.Evolves ((refresh id).act scene) ((scene.changes id).filterMap Change.removed?) ∧
      ((refresh id).act scene).Tended := by
  have hlater := (step h (refresh id)).sound
  cases Hub.refresh_cases id scene.hub with
  | absent failure hnone hends =>
    rw [Scene.changes_eq hends]
    rw [act, Scene.after_eq hends] at hlater ⊢
    exact Scene.evolves_of_monitors h htended hlater (.refl h.fresh) rfl rfl
  | nothing monitor ending hmonitor hending _ hends =>
    rw [Scene.changes_eq hends, hending]
    rw [act, Scene.after_eq hends, hending] at hlater ⊢
    exact Scene.evolves_of_monitors h htended hlater (.refl h.fresh) rfl rfl
  | delivered monitor drained hmonitor hdrained _ hends =>
    rw [Scene.changes_eq hends]
    rw [act, Scene.after_eq hends] at hlater ⊢
    have hsound : (scene.hub.roster monitor).Sound (monitor.watch id).filter :=
      h.registries id monitor hmonitor
    obtain ⟨hrecords, hkept⟩ := Watch.evolves_applyAll hsound h.fresh (htended id monitor hmonitor)
      drained.notices
    -- The one agent is the monitor that is refreshed.
    refine Scene.evolves_of_agents h htended hlater hrecords (Nat.le_refl _) ?_ ?_
    · rintro _ rfl
      exact ⟨.inl (Option.isSome_iff_exists.2 ⟨monitor, hmonitor⟩),
        Hub.Sound.lt_nextMonitor h hmonitor⟩
    · intro other watching hwatching
      replace hwatching := (Table.get?_insert ..).symm.trans hwatching
      split at hwatching
      · next heq =>
        cases hwatching
        exact .inr ⟨heq, heq ▸ hkept⟩
      · next hne => exact .inl ⟨hwatching, hne⟩

theorem evolves_unwatch (h : scene.Sound) (htended : scene.Tended) (id : MonitorId) :
    scene.Evolves ((unwatch id).act scene) [] ∧ ((unwatch id).act scene).Tended := by
  have hlater := (step h (unwatch id)).sound
  cases Hub.unwatch_cases id scene.hub with
  | absent failure hends =>
    rw [act, Scene.after_eq_of_nil hends] at hlater ⊢
    exact Scene.evolves_of_monitors h htended hlater (.refl h.fresh) rfl rfl
  | ended monitor hmonitor hends =>
    rw [act, Scene.after_eq_of_nil hends] at hlater ⊢
    have hreleased : scene.hub.records.Evolves (scene.hub.records.releaseAll
      monitor.registry.records) [] fun _ => False := .releaseAll h.fresh _
    refine Scene.evolves_of_agents h htended hlater hreleased (Nat.le_refl _)
      (fun _ hnone => False.elim hnone) fun other watching hwatching => ?_
    replace hwatching := (Table.get?_erase ..).symm.trans hwatching
    split at hwatching
    · cases hwatching
    · exact .inl ⟨hwatching, not_false⟩

theorem evolves_enumerate (h : scene.Sound) (htended : scene.Tended) (origin : Platform.Origin σ)
    (filter : Filter) :
    scene.Evolves ((enumerate origin filter).act scene) [] ∧
      ((enumerate origin filter).act scene).Tended := by
  have hlater := (step h (enumerate origin filter)).sound
  cases Hub.enumerate_cases origin filter scene.hub with
  | nothing ending hending hends =>
    rw [act, Scene.after_eq hends] at hlater ⊢
    exact Scene.evolves_of_monitors h htended hlater (.refl h.fresh) rfl rfl
  | found infos hends =>
    rw [act, Scene.after_eq hends] at hlater ⊢
    exact Scene.evolves_of_monitors h htended hlater (.createAll h.fresh origin infos) rfl rfl

theorem evolves_open (h : scene.Sound) (htended : scene.Tended) (id : RecordId) :
    scene.Evolves ((open_ id).act scene) [] ∧ ((open_ id).act scene).Tended := by
  have hlater := (step h (open_ id)).sound
  cases Hub.open_cases id scene.hub with
  | refused failure hends =>
    rw [act, Scene.after_eq_of_nil hends] at hlater ⊢
    exact Scene.evolves_of_monitors h htended hlater (.refl h.fresh) rfl rfl
  | nothing record ending hends =>
    rw [act, Scene.after_eq_of_nil hends] at hlater ⊢
    exact Scene.evolves_of_monitors h htended hlater (.refl h.fresh) rfl rfl
  | opened record channel hrecord hends =>
    rw [act, Scene.after_eq_of_nil hends] at hlater ⊢
    exact Scene.evolves_of_monitors h htended hlater (.retain h.fresh id) rfl rfl

theorem evolves_close (h : scene.Sound) (htended : scene.Tended) (id : HandleId) :
    scene.Evolves ((close id).act scene) [] ∧ ((close id).act scene).Tended := by
  have hlater := (step h (close id)).sound
  cases Hub.close_cases id scene.hub with
  | refused failure hends =>
    rw [act, Scene.after_eq_of_nil hends] at hlater ⊢
    exact Scene.evolves_of_monitors h htended hlater (.refl h.fresh) rfl rfl
  | closed handle hhandle hends =>
    rw [act, Scene.after_eq_of_nil hends] at hlater ⊢
    exact Scene.evolves_of_monitors h htended hlater (.release h.fresh handle.record) rfl rfl

/-- Whatever happens, monitors keep their registries, and records change as a refresh tells. -/
theorem evolves (h : scene.Sound) (htended : scene.Tended) (deed : Deed σ) :
    scene.Evolves (deed.act scene) ((deed.told scene).filterMap Change.removed?) ∧
      (deed.act scene).Tended := by
  have hlater := (step h deed).sound
  cases deed with
  | outside change =>
    exact Scene.evolves_of_monitors h htended hlater (.refl h.fresh) rfl rfl
  | subscribe origin filter =>
    rw [act, Scene.after_eq_of_nil (Hub.ends_onPlatform (Action.ends_run ..))] at hlater ⊢
    exact Scene.evolves_of_monitors h htended hlater (.refl h.fresh) rfl rfl
  | settle origin filter source => exact evolves_settle h htended origin filter source
  | refresh id => exact evolves_refresh h htended id
  | unwatch id => exact evolves_unwatch h htended id
  | enumerate origin filter => exact evolves_enumerate h htended origin filter
  | open_ id => exact evolves_open h htended id
  | close id => exact evolves_close h htended id
  | keep id =>
    rw [act] at hlater ⊢
    split at hlater
    · next hthere =>
      rw [if_pos hthere]
      exact Scene.evolves_of_monitors h htended hlater (.retain h.fresh id) rfl rfl
    · next hnot =>
      rw [if_neg hnot]
      exact ⟨.refl h, htended⟩
  | give id =>
    rw [act] at hlater ⊢
    split at hlater
    · next hheld =>
      rw [if_pos hheld]
      exact Scene.evolves_of_monitors h htended hlater (.release h.fresh id) rfl rfl
    · next hnot =>
      rw [if_neg hnot]
      exact ⟨.refl h, htended⟩

end Deed

/-- What a monitor lists. -/
structure Hub.Lists (hub : Hub σ) (id : MonitorId) (monitor : Monitor σ) : Prop where
  /-- Each entry is under the identity of its own record, which passes the filter, is online and is
  shown as one of this monitor. -/
  entry : ∀ identity record, (identity, record) ∈ monitor.registry.entries →
    ∃ view, hub.view? record = some view ∧ view.info.identity = identity ∧
      monitor.filter.passes view.info = true ∧ view.status = .online ∧ view.monitor = some id
  /-- The devices are listed in the order of their identities, and no identity comes twice. -/
  ascending : ∃ infos : List Info, monitor.registry.records.map hub.records.info? = infos.map some ∧
    infos.Pairwise fun first second => first.identity.before second.identity = true
  /-- An identity leads to a record exactly if the record is listed and has the identity. -/
  find : ∀ identity record, monitor.registry.find? identity = some record ↔
    record ∈ monitor.registry.records ∧
      (hub.records.info? record).map Info.identity = some identity

namespace Roster.Sound

variable {ω : Type} {registry : Registry} {records : Records ω} {filter : Filter}

/-- What is known of the devices of a registry has the identities of its entries. -/
theorem exists_infos (h : Roster.Sound ⟨registry, records⟩ filter) :
    ∃ infos : List Info, registry.records.map records.info? = infos.map some ∧
      infos.map Info.identity = registry.entries.map (·.1) := by
  have hknown := h.known
  clear h
  obtain ⟨entries⟩ := registry
  change ∃ infos : List Info, (entries.map (·.2)).map records.info? = infos.map some ∧
    infos.map Info.identity = entries.map (·.1)
  induction entries with
  | nil => exact ⟨[], rfl, rfl⟩
  | cons entry rest ih =>
    obtain ⟨info, hinfo, hidentity, -⟩ := hknown entry List.mem_cons_self
    obtain ⟨infos, hinfos, hidentities⟩ := ih fun other hother =>
      hknown other (List.mem_cons_of_mem _ hother)
    exact ⟨info :: infos, congr (congrArg List.cons hinfo) hinfos,
      congr (congrArg List.cons hidentity) hidentities⟩

theorem find?_eq_some_iff (h : Roster.Sound ⟨registry, records⟩ filter) {identity : Identity}
    {record : RecordId} : registry.find? identity = some record ↔
      record ∈ registry.records ∧
        (records.info? record).map Info.identity = some identity := by
  constructor
  · intro hfound
    have hentry := Registry.mem_of_find?_eq_some hfound
    obtain ⟨info, hinfo, hidentity, -⟩ := h.known (identity, record) hentry
    exact ⟨List.mem_map.2 ⟨_, hentry, rfl⟩,
      (congrArg (Option.map Info.identity) hinfo).trans (congrArg some hidentity)⟩
  · rintro ⟨hlisted, hidentity⟩
    obtain ⟨entry, hentry, rfl⟩ := List.mem_map.1 hlisted
    obtain ⟨info, hinfo, heq, -⟩ := h.known entry hentry
    have hsame := (congrArg (Option.map Info.identity) hinfo).symm.trans hidentity
    cases heq.symm.trans (Option.some.inj hsame)
    exact Registry.find?_of_mem h.identities hentry

end Roster.Sound

namespace Scene

variable {scene : Scene σ}

theorem lists (h : scene.Sound) (htended : scene.Tended) {id : MonitorId} {monitor : Monitor σ}
    (hmonitor : scene.hub.monitors.get? id = some monitor) : scene.hub.Lists id monitor := by
  have hsound := h.registries id monitor hmonitor
  have hkept := htended id monitor hmonitor
  refine ⟨fun identity record hentry => ?_, ?_, fun identity record => hsound.find?_eq_some_iff⟩
  · obtain ⟨info, hinfo, hidentity, hpasses⟩ := hsound.known (identity, record) hentry
    obtain ⟨known, hknown, rfl⟩ := Option.map_eq_some_iff.1 hinfo
    obtain ⟨same, hsame, hstatus, howner⟩ :=
      hkept.listed record (List.mem_map.2 ⟨_, hentry, rfl⟩)
    cases hknown.symm.trans hsame
    have hruns : scene.hub.monitors.contains id = true :=
      Option.isSome_iff_exists.2 ⟨monitor, hmonitor⟩
    refine ⟨_, congrArg (Option.map _) hknown, hidentity, hpasses, hstatus, ?_⟩
    change known.monitor.filter scene.hub.monitors.contains = some id
    rw [howner, Option.filter_some, if_pos hruns]
  · obtain ⟨infos, hinfos, hidentities⟩ := hsound.exists_infos
    have hascending : (monitor.registry.entries.map (·.1)).Pairwise
        fun first second => first.before second = true :=
      List.pairwise_map.2 hkept.ascending
    rw [← hidentities] at hascending
    exact ⟨infos, hinfos, List.pairwise_map.1 hascending⟩

/-- A record is listed by the monitor that made it, and by no other. -/
theorem eq_of_listed (htended : scene.Tended) {first second : MonitorId} {one other : Monitor σ}
    (hone : scene.hub.monitors.get? first = some one)
    (hother : scene.hub.monitors.get? second = some other) {record : RecordId}
    (h : record ∈ one.registry.records) (h' : record ∈ other.registry.records) :
    first = second := by
  obtain ⟨known, hknown, -, hfirst⟩ := (htended first one hone).listed record h
  obtain ⟨same, hsame, -, hsecond⟩ := (htended second other hother).listed record h'
  cases hknown.symm.trans hsame
  exact Option.some.inj (hfirst.symm.trans hsecond)

theorem tended_initial (platform : σ) : (initial platform).Tended :=
  nofun

/-- Every run changes records as its refreshes tell. -/
theorem evolves_run (h : scene.Sound) (htended : scene.Tended) (deeds : List (Deed σ)) :
    scene.Evolves (scene.run deeds) ((scene.told deeds).filterMap Change.removed?) ∧
      (scene.run deeds).Tended := by
  induction deeds generalizing scene with
  | nil => exact ⟨.refl h, htended⟩
  | cons deed rest ih =>
    obtain ⟨hfirst, hkept⟩ := Deed.evolves h htended deed
    obtain ⟨hrest, hlast⟩ := ih (Deed.step h deed).sound hkept
    refine ⟨?_, hlast⟩
    rw [told, List.filterMap_append]
    exact hfirst.trans hrest

/-- A monitor that starts gets a name that no monitor had before. -/
theorem eq_nextMonitor_of_settle {origin : Platform.Origin σ} {filter : Filter}
    {source : Platform.Source σ} {id : MonitorId}
    (hid : ((Hub.settle origin filter source).run scene.hub).ending = .returned id) :
    id = scene.hub.nextMonitor := by
  cases Hub.settle_cases origin filter source scene.hub with
  | started found hfound hends =>
    rw [hends.1] at hid
    exact (Ending.returned.inj hid).symm
  | failed failure hends =>
    rw [hends.1] at hid
    cases hid
  | unending hends =>
    rw [hends.1] at hid
    cases hid

/-- Whatever the platform lists and announces, and whatever is done with any number of monitors: each
running monitor lists the devices that it should, no record is listed by two, no two running monitors
have the same name, and one that starts gets a name that was never given before. -/
theorem monitors_list (platform : σ) (deeds : List (Deed σ)) :
    let hub := ((initial platform).run deeds).hub
    (∀ id monitor, hub.monitors.get? id = some monitor → hub.Lists id monitor) ∧
    (∀ first second one other, hub.monitors.get? first = some one →
      hub.monitors.get? second = some other →
        ∀ record ∈ one.registry.records, record ∈ other.registry.records → first = second) ∧
    hub.monitors.keys.Nodup ∧
    ∀ origin filter source id,
      ((Hub.settle origin filter source).run hub).ending = .returned id →
        ∀ earlier, earlier <+: deeds →
          ((initial platform).run earlier).hub.monitors.get? id = none := by
  intro hub
  have hsound : ((initial platform).run deeds).Sound := sound_run (sound_initial platform) deeds
  have htended := (evolves_run (sound_initial platform) (tended_initial platform) deeds).2
  refine ⟨fun id monitor hmonitor => lists hsound htended hmonitor,
    fun first second one other hone hother record h h' => eq_of_listed htended hone hother h h',
    hsound.monitorKeys, ?_⟩
  intro origin filter source id hid earlier hearlier
  obtain ⟨rest, rfl⟩ := hearlier
  rw [eq_nextMonitor_of_settle hid]
  have hsooner := sound_run (sound_initial platform) earlier
  -- The next name only grows, and above it nothing ran at any earlier time.
  obtain ⟨hevolves, -⟩ := evolves_run hsooner
    (evolves_run (sound_initial platform) (tended_initial platform) earlier).2 rest
  rw [← run_append] at hevolves
  exact hsooner.newMonitor _ hevolves.next_le

end Scene

end Hotplug
