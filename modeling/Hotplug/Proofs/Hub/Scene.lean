import Hotplug.Proofs.Hub.Sound
/-!
# Everything that can happen to a hub

A hub does not run alone. The world below it changes at any time, monitors start, refresh and end in
any order, and whoever was given a record may keep it for as long as he likes. A scene is a hub with
the records held outside of it; a deed is one thing that happens to it.

## Main definitions

* `Hotplug.Scene`, `Hotplug.Deed`, `Hotplug.Deed.act`, `Hotplug.Scene.run`
* `Hotplug.Deed.Step`: what every deed comes to.
* `Hotplug.Platform.Frame`: a relation that the operations of a platform respect.

## Main statements

* `Hotplug.Deed.step`, `Hotplug.Scene.sound_run`: one deed, and any number.
* `Hotplug.Scene.run_keeps`: what every deed of a kind keeps, any number of them keep.
* `Hotplug.Deed.frame`: what the operations of a platform respect, deeds respect.
-/

namespace Hotplug

variable {σ α : Type} [Platform σ]

/-- A hub, and the records held outside of it, each as often as it is held. -/
structure Scene (σ : Type) [Platform σ] where
  hub : Hub σ
  /-- The records held outside. -/
  held : List RecordId := []

/-- One thing that can happen. -/
inductive Deed (σ : Type) [Platform σ]
  /-- The world changes, or a device is read or written. -/
  | outside (change : σ → σ)
  /-- A monitor takes its first step: announcements are collected from now on. -/
  | subscribe (origin : Platform.Origin σ) (filter : Filter)
  /-- A monitor takes its second step and starts. -/
  | settle (origin : Platform.Origin σ) (filter : Filter) (source : Platform.Source σ)
  /-- A monitor refreshes. Whoever asked for it holds the records of the changes. -/
  | refresh (id : MonitorId)
  /-- A monitor ends. -/
  | unwatch (id : MonitorId)
  /-- Devices are looked for once. Whoever asked for it holds their records. -/
  | enumerate (origin : Platform.Origin σ) (filter : Filter)
  /-- The device of a record is opened. -/
  | open_ (id : RecordId)
  /-- A handle is closed. -/
  | close (id : HandleId)
  /-- Someone takes a reference to a record. -/
  | keep (id : RecordId)
  /-- Someone gives a reference back. -/
  | give (id : RecordId)

namespace Scene

/-- Nothing has happened yet. -/
def initial (platform : σ) : Scene σ :=
  ⟨{ platform }, []⟩

/-- The scene is in order. -/
def Sound (scene : Scene σ) : Prop :=
  scene.hub.Sound scene.held

/-- The scene after an operation of its hub, whose value may bring records. -/
def after (scene : Scene σ) (action : Action (Hub σ) α) (brought : α → List RecordId) : Scene σ :=
  let out := action.run scene.hub
  ⟨out.state, (out.ending.value?.map brought).getD [] ++ scene.held⟩

theorem after_eq {scene : Scene σ} {action : Action (Hub σ) α} {brought : α → List RecordId}
    {ending : Ending α} {hub : Hub σ} (h : action.Ends scene.hub ending hub) :
    scene.after action brought = ⟨hub, (ending.value?.map brought).getD [] ++ scene.held⟩ := by
  rw [after, h.1, h.2]

/-- An operation that brings no records. -/
theorem after_eq_of_nil {scene : Scene σ} {action : Action (Hub σ) α} {ending : Ending α}
    {hub : Hub σ} (h : action.Ends scene.hub ending hub) :
    scene.after action (fun _ => []) = ⟨hub, scene.held⟩ := by
  rw [after_eq h]
  cases ending <;> rfl

end Scene

namespace Deed

/-- What a deed makes of a scene. -/
def act : Deed σ → Scene σ → Scene σ
  | outside change, scene => { scene with hub := scene.hub.above (change scene.hub.platform) }
  | subscribe origin filter, scene =>
    scene.after (Hub.onPlatform (Platform.subscribe origin filter)) fun _ => []
  | settle origin filter source, scene =>
    scene.after (Hub.settle origin filter source) fun _ => []
  | refresh id, scene => scene.after (Hub.refresh id) (·.map Change.record)
  | unwatch id, scene => scene.after (Hub.unwatch id) fun _ => []
  | enumerate origin filter, scene => scene.after (Hub.enumerate origin filter) id
  | open_ id, scene => scene.after (Hub.open_ id) fun _ => []
  | close id, scene => scene.after (Hub.close id) fun _ => []
  | keep id, scene =>
    if (scene.hub.records.get? id).isSome then
      ⟨{ scene.hub with records := scene.hub.records.retain id }, id :: scene.held⟩
    else scene
  | give id, scene =>
    if id ∈ scene.held then
      ⟨{ scene.hub with records := scene.hub.records.release id }, scene.held.erase id⟩
    else scene

/-- What every deed comes to. -/
structure Step (deed : Deed σ) (scene later : Scene σ) : Prop where
  sound : later.Sound
  continues : later.hub.records.Continues scene.hub.records
  /-- A monitor that is not asked for anything stays as it is. -/
  stays : ∀ id monitor, deed ≠ .refresh id → deed ≠ .unwatch id →
    scene.hub.monitors.get? id = some monitor → later.hub.monitors.get? id = some monitor
  /-- A monitor stays with its source. -/
  source : ∀ id monitor, later.hub.monitors.get? id = some monitor →
    (∃ earlier, scene.hub.monitors.get? id = some earlier ∧ monitor.source = earlier.source) ∨
      ∃ origin filter, deed = .settle origin filter monitor.source

variable {scene : Scene σ}

/-- A deed that leaves the monitors as they are. -/
theorem Step.of_monitors {deed : Deed σ} {later : Scene σ} (hsound : later.Sound)
    (hcontinues : later.hub.records.Continues scene.hub.records)
    (hmonitors : later.hub.monitors = scene.hub.monitors) : Step deed scene later :=
  ⟨hsound, hcontinues, fun _ _ _ _ h => hmonitors ▸ h, fun _ monitor h =>
    .inl ⟨monitor, hmonitors ▸ h, rfl⟩⟩

theorem step_settle (h : scene.Sound) (origin : Platform.Origin σ) (filter : Filter)
    (source : Platform.Source σ) :
    Step (settle origin filter source) scene ((settle origin filter source).act scene) := by
  cases Hub.settle_cases origin filter source scene.hub with
  | started found hfound hends =>
    rw [act, Scene.after_eq_of_nil hends]
    generalize ((Platform.enumerate origin filter).run scene.hub.platform).state = platform
    have habove : (scene.hub.above platform).Sound scene.held := h.above platform
    refine ⟨habove.begun origin filter source found, ?_, ?_, ?_⟩
    · exact (Records.continues_releaseAll ..).trans
        (Hub.succeeds_notices (.empty scene.hub.records filter) h.fresh scene.hub.nextMonitor
          (found.map .added)).continues
    · intro id monitor _ _ hmonitor
      refine (Table.get?_insert ..).trans ?_
      rw [if_neg]
      · exact hmonitor
      · -- No monitor has the name that the new one gets.
        intro heq
        have hnone := h.newMonitor id (Nat.le_of_eq heq.symm)
        rw [hnone] at hmonitor
        cases hmonitor
    · intro id monitor hmonitor
      replace hmonitor := (Table.get?_insert ..).symm.trans hmonitor
      split at hmonitor
      · cases hmonitor
        exact .inr ⟨origin, filter, rfl⟩
      · exact .inl ⟨monitor, hmonitor, rfl⟩
  | failed failure hends =>
    rw [act, Scene.after_eq_of_nil hends]
    exact .of_monitors (h.above _) (.refl _) rfl
  | unending hends =>
    rw [act, Scene.after_eq_of_nil hends]
    exact .of_monitors (h.above _) (.refl _) rfl

theorem step_refresh (h : scene.Sound) (id : MonitorId) :
    Step (refresh id) scene ((refresh id).act scene) := by
  cases Hub.refresh_cases id scene.hub with
  | absent failure hnone hends =>
    rw [act, Scene.after_eq hends]
    exact .of_monitors h (.refl _) rfl
  | nothing monitor ending hmonitor hending _ hends =>
    rw [act, Scene.after_eq hends, hending]
    exact .of_monitors (h.above _) (.refl _) rfl
  | delivered monitor drained hmonitor hdrained _ hends =>
    rw [act, Scene.after_eq hends]
    generalize ((Platform.drain monitor.source).run scene.hub.platform).state = platform
    have habove : (scene.hub.above platform).Sound scene.held := h.above platform
    have hsucceeds := Hub.succeeds_notices (h.registries id monitor hmonitor) h.fresh id
      drained.notices
    have hid : id < scene.hub.nextMonitor := Hub.Sound.lt_nextMonitor h hmonitor
    -- The new registry takes the place of the old one among the holders.
    have hunder : scene.hub.monitors.under id (fun monitor => monitor.registry.records) =
        monitor.registry.records := by
      rw [Table.under, hmonitor]
      rfl
    refine ⟨habove.adopt hid hunder hsucceeds, hsucceeds.continues, ?_, ?_⟩
    · intro other watching hother _ hwatching
      refine (Table.get?_insert ..).trans ?_
      rw [if_neg fun heq => hother (congrArg refresh heq.symm)]
      exact hwatching
    · intro other watching hwatching
      replace hwatching := (Table.get?_insert ..).symm.trans hwatching
      split at hwatching
      · next heq =>
        cases hwatching
        exact .inl ⟨monitor, heq ▸ hmonitor, rfl⟩
      · exact .inl ⟨watching, hwatching, rfl⟩

theorem step_unwatch (h : scene.Sound) (id : MonitorId) :
    Step (unwatch id) scene ((unwatch id).act scene) := by
  cases Hub.unwatch_cases id scene.hub with
  | absent failure hends =>
    rw [act, Scene.after_eq_of_nil hends]
    exact .of_monitors h (.refl _) rfl
  | ended monitor hmonitor hends =>
    rw [act, Scene.after_eq_of_nil hends]
    refine ⟨Hub.Sound.ended (h.above _) hmonitor, Records.continues_releaseAll .., ?_, ?_⟩
    · intro other watching _ hother hwatching
      refine (Table.get?_erase ..).trans ?_
      rw [if_neg fun heq => hother (congrArg unwatch heq.symm)]
      exact hwatching
    · intro other watching hwatching
      replace hwatching := (Table.get?_erase ..).symm.trans hwatching
      split at hwatching
      · cases hwatching
      · exact .inl ⟨watching, hwatching, rfl⟩

theorem step_enumerate (h : scene.Sound) (origin : Platform.Origin σ) (filter : Filter) :
    Step (enumerate origin filter) scene ((enumerate origin filter).act scene) := by
  cases Hub.enumerate_cases origin filter scene.hub with
  | nothing ending hending hends =>
    rw [act, Scene.after_eq hends, hending]
    exact .of_monitors (h.above _) (.refl _) rfl
  | found infos hends =>
    rw [act, Scene.after_eq hends]
    generalize ((Platform.enumerate origin filter).run scene.hub.platform).state = platform
    have habove : (scene.hub.above platform).Sound scene.held := h.above platform
    exact .of_monitors (habove.createAll origin infos) (Records.continues_createAll ..) rfl

theorem step_open (h : scene.Sound) (id : RecordId) :
    Step (open_ id) scene ((open_ id).act scene) := by
  cases Hub.open_cases id scene.hub with
  | refused failure hends =>
    rw [act, Scene.after_eq_of_nil hends]
    exact .of_monitors h (.refl _) rfl
  | nothing record ending hends =>
    rw [act, Scene.after_eq_of_nil hends]
    exact .of_monitors (h.above _) (.refl _) rfl
  | opened record channel hrecord hends =>
    rw [act, Scene.after_eq_of_nil hends]
    generalize ((Platform.openChannel record.origin record.info).run scene.hub.platform).state =
      platform
    have habove : (scene.hub.above platform).Sound scene.held := h.above platform
    have hthere : (scene.hub.records.get? id).isSome = true := by
      rw [hrecord]
      rfl
    exact .of_monitors (habove.opened hthere channel) (Records.continues_retain ..) rfl

theorem step_close (h : scene.Sound) (id : HandleId) :
    Step (close id) scene ((close id).act scene) := by
  cases Hub.close_cases id scene.hub with
  | refused failure hends =>
    rw [act, Scene.after_eq_of_nil hends]
    exact .of_monitors h (.refl _) rfl
  | closed handle hhandle hends =>
    rw [act, Scene.after_eq_of_nil hends]
    exact .of_monitors (Hub.Sound.closed (h.above _) hhandle) (Records.continues_release ..) rfl

theorem step_keep (h : scene.Sound) (id : RecordId) :
    Step (keep id) scene ((keep id).act scene) := by
  rw [act]
  split
  · next hthere => exact .of_monitors (h.retain hthere) (Records.continues_retain ..) rfl
  · exact .of_monitors h (.refl _) rfl

theorem step_give (h : scene.Sound) (id : RecordId) :
    Step (give id) scene ((give id).act scene) := by
  rw [act]
  split
  · next hheld =>
    refine .of_monitors ?_ (Records.continues_release ..) rfl
    -- What is given back is one of those that are held outside.
    have hcount (record : RecordId) :
        ([id] ++ scene.held.erase id).count record = scene.held.count record :=
      (List.perm_cons_erase hheld).symm.count_eq record
    have hsound : scene.hub.Sound ([id] ++ scene.held.erase id) := by
      refine ⟨h.fresh, h.counts.of_count_eq fun record => ?_, h.monitorKeys, h.handleKeys,
        h.newMonitor, h.newHandle, h.registries⟩
      rw [Hub.holders, Hub.holders, List.count_append, hcount, ← List.count_append]
    exact hsound.release
  · exact .of_monitors h (.refl _) rfl

/-- Every deed leaves the scene in order. -/
theorem step (h : scene.Sound) (deed : Deed σ) : Step deed scene (deed.act scene) := by
  cases deed with
  | outside change => exact .of_monitors (h.above _) (.refl _) rfl
  | subscribe origin filter =>
    rw [act, Scene.after_eq_of_nil (Hub.ends_onPlatform (Action.ends_run ..))]
    exact .of_monitors (h.above _) (.refl _) rfl
  | settle origin filter source => exact step_settle h origin filter source
  | refresh id => exact step_refresh h id
  | unwatch id => exact step_unwatch h id
  | enumerate origin filter => exact step_enumerate h origin filter
  | open_ id => exact step_open h id
  | close id => exact step_close h id
  | keep id => exact step_keep h id
  | give id => exact step_give h id

end Deed

/-- A relation between earlier and later states of a platform that every operation respects. Some
sources may be left out. -/
structure Platform.Frame (relation : σ → σ → Prop) (spared : Platform.Source σ → Prop) : Prop where
  refl : ∀ state, relation state state
  trans : ∀ first second third, relation first second → relation second third →
    relation first third
  enumerate : ∀ origin filter state,
    relation state ((Platform.enumerate origin filter).run state).state
  subscribe : ∀ origin filter state,
    relation state ((Platform.subscribe origin filter).run state).state
  unsubscribe : ∀ source state, spared source → relation state (Platform.unsubscribe source state)
  drain : ∀ source state, spared source → relation state ((Platform.drain source).run state).state
  openChannel : ∀ origin info state,
    relation state ((Platform.openChannel origin info).run state).state
  closeChannel : ∀ (channel : Platform.Channel σ) state,
    relation state (Platform.closeChannel channel state)

/-- What the operations of a platform respect, deeds respect. -/
theorem Deed.frame {relation : σ → σ → Prop} {spared : Platform.Source σ → Prop}
    (h : Platform.Frame relation spared) (scene : Scene σ) (deed : Deed σ)
    (houtside : ∀ change, deed = .outside change →
      relation scene.hub.platform (change scene.hub.platform))
    (hsettle : ∀ origin filter source, deed = .settle origin filter source → spared source)
    (hmonitor : ∀ id monitor, deed = .refresh id ∨ deed = .unwatch id →
      scene.hub.monitors.get? id = some monitor → spared monitor.source) :
    relation scene.hub.platform (deed.act scene).hub.platform := by
  cases deed with
  | outside change => exact houtside change rfl
  | subscribe origin filter => exact h.subscribe origin filter _
  | settle origin filter source =>
    have hlisted := h.enumerate origin filter scene.hub.platform
    cases Hub.settle_cases origin filter source scene.hub with
    | started found hfound hends =>
      rw [act, Scene.after_eq_of_nil hends]
      exact hlisted
    | failed failure hends =>
      rw [act, Scene.after_eq_of_nil hends]
      exact h.trans _ _ _ hlisted (h.unsubscribe source _ (hsettle origin filter source rfl))
    | unending hends =>
      rw [act, Scene.after_eq_of_nil hends]
      exact hlisted
  | refresh id =>
    cases Hub.refresh_cases id scene.hub with
    | absent failure hnone hends =>
      rw [act, Scene.after_eq hends]
      exact h.refl _
    | nothing monitor ending hmonitored hending _ hends =>
      rw [act, Scene.after_eq hends]
      exact h.drain monitor.source _ (hmonitor id monitor (.inl rfl) hmonitored)
    | delivered monitor drained hmonitored hdrained _ hends =>
      rw [act, Scene.after_eq hends]
      exact h.drain monitor.source _ (hmonitor id monitor (.inl rfl) hmonitored)
  | unwatch id =>
    cases Hub.unwatch_cases id scene.hub with
    | absent failure hends =>
      rw [act, Scene.after_eq_of_nil hends]
      exact h.refl _
    | ended monitor hmonitored hends =>
      rw [act, Scene.after_eq_of_nil hends]
      exact h.unsubscribe monitor.source _ (hmonitor id monitor (.inr rfl) hmonitored)
  | enumerate origin filter =>
    have hlisted := h.enumerate origin filter scene.hub.platform
    cases Hub.enumerate_cases origin filter scene.hub with
    | nothing ending hending hends =>
      rw [act, Scene.after_eq hends]
      exact hlisted
    | found infos hends =>
      rw [act, Scene.after_eq hends]
      exact hlisted
  | open_ id =>
    cases Hub.open_cases id scene.hub with
    | refused failure hends =>
      rw [act, Scene.after_eq_of_nil hends]
      exact h.refl _
    | nothing record ending hends =>
      rw [act, Scene.after_eq_of_nil hends]
      exact h.openChannel record.origin record.info _
    | opened record channel hrecord hends =>
      rw [act, Scene.after_eq_of_nil hends]
      exact h.openChannel record.origin record.info _
  | close id =>
    cases Hub.close_cases id scene.hub with
    | refused failure hends =>
      rw [act, Scene.after_eq_of_nil hends]
      exact h.refl _
    | closed handle hhandle hends =>
      rw [act, Scene.after_eq_of_nil hends]
      exact h.closeChannel handle.channel _
  | keep id =>
    rw [act]
    split <;> exact h.refl _
  | give id =>
    rw [act]
    split <;> exact h.refl _

namespace Scene

/-- What deeds make of a scene, in order. -/
def run (scene : Scene σ) (deeds : List (Deed σ)) : Scene σ :=
  deeds.foldl (fun scene deed => deed.act scene) scene

theorem run_append (scene : Scene σ) (first second : List (Deed σ)) :
    scene.run (first ++ second) = (scene.run first).run second :=
  List.foldl_append

theorem sound_initial (platform : σ) : (initial platform).Sound :=
  ⟨fun _ _ => rfl, ⟨fun _ => rfl, nofun⟩, .nil, .nil, fun _ _ => rfl, fun _ _ => rfl, nofun⟩

/-- Every scene that deeds lead to is in order. -/
theorem sound_run {scene : Scene σ} (h : scene.Sound) (deeds : List (Deed σ)) :
    (scene.run deeds).Sound := by
  induction deeds generalizing scene with
  | nil => exact h
  | cons deed rest ih => exact ih (Deed.step h deed).sound

/-- What every deed of a kind keeps, any number of them keep. -/
theorem run_keeps (property : Scene σ → Prop) {kind : Deed σ → Prop} {scene : Scene σ}
    {deeds : List (Deed σ)} (h : scene.Sound) (hdeeds : ∀ deed ∈ deeds, kind deed)
    (hproperty : property scene)
    (hkeeps : ∀ scene deed, scene.Sound → kind deed → property scene → property (deed.act scene)) :
    property (scene.run deeds) := by
  induction deeds generalizing scene with
  | nil => exact hproperty
  | cons deed rest ih =>
    obtain ⟨hdeed, hrest⟩ := List.forall_mem_cons.1 hdeeds
    exact ih (Deed.step h deed).sound hrest (hkeeps scene deed h hdeed hproperty)

theorem continues_run {scene : Scene σ} (h : scene.Sound) (deeds : List (Deed σ)) :
    (scene.run deeds).hub.records.Continues scene.hub.records :=
  run_keeps (·.hub.records.Continues scene.hub.records) h (fun _ _ => trivial) (.refl _)
    fun _ deed hsound _ hcontinues => (Deed.step hsound deed).continues.trans hcontinues

end Scene

end Hotplug
