import Hotplug.Proofs.Backend.Memory
import Hotplug.Proofs.Hub.Holding
import Hotplug.Proofs.Hub.Scene
/-!
# Convergence

A monitor collects announcements before it looks for devices, so it may hear of a change twice, and
its mailbox may wait through failed deliveries. Still the mailbox always leads from the devices that
the monitor knows to those that are present, and a refresh that succeeds brings the one to the other.

## Main definitions

* `Hotplug.Memory.Announced`: a change from outside that is announced, or needs no announcement.
* `Hotplug.Memory.Leads`: a mailbox that leads from what is held to the devices present.
* `Hotplug.Scene.Collects`, `Hotplug.Scene.Watches`: the two stages in the life of a monitor.
* `Hotplug.Course`: a run in which a monitor starts, refreshes and is left alone.

## Main statements

* `Hotplug.Scene.Collects.settle`, `Hotplug.Scene.Watches.refresh`
* `Hotplug.Course.converges`
-/

namespace Hotplug

variable {name : Nat} {filter : Filter} {held : Identity → Option Info}

namespace Memory

/-- A change that leaves the devices present and every mailbox alone. -/
def Aside (change : Memory → Memory) : Prop :=
  ∀ name memory, Spares name memory (change memory)

theorem aside_failNext (fault : Fault) : Aside (·.failNext fault) :=
  fun _ _ => ⟨rfl, rfl, Nat.le_refl _⟩

/-- A change from outside that is announced, or needs no announcement. -/
inductive Announced : (Memory → Memory) → Prop
  /-- An interface comes in. -/
  | plug (info : Info) : Announced (·.plug info)
  /-- A device goes. -/
  | unplug (key : String) : Announced (·.unplug key)
  /-- Something else happens. -/
  | aside (change : Memory → Memory) (h : Aside change) : Announced change

/-- What waits in a mailbox leads from what is held under each identity to what counts among the
devices present. -/
structure Leads (name : Nat) (filter : Filter) (held : Identity → Option Info) (memory : Memory) :
    Prop where
  named : name < memory.next
  queued : ∃ box, memory.mailboxes.get? name = some box ∧ ∀ identity,
    box.queue.foldl (filter.hold identity) (held identity) = filter.first identity memory.present

/-- Every announcement in a mailbox was delivered. -/
def Delivered (name : Nat) (memory : Memory) : Prop :=
  ∃ box, memory.mailboxes.get? name = some box ∧ box.queue = []

variable {memory later : Memory}

theorem Leads.spares (h : memory.Leads name filter held) (hspares : Spares name memory later) :
    later.Leads name filter held := by
  obtain ⟨box, hbox, hqueue⟩ := h.queued
  refine ⟨Nat.lt_of_lt_of_le h.named hspares.next_le, box, hspares.mailbox.trans hbox,
    fun identity => ?_⟩
  rw [hspares.present]
  exact hqueue identity

theorem Delivered.spares (h : memory.Delivered name) (hspares : Spares name memory later) :
    later.Delivered name := by
  obtain ⟨box, hbox, hqueue⟩ := h
  exact ⟨box, hspares.mailbox.trans hbox, hqueue⟩

/-- What is held, when nothing waits. -/
theorem Leads.eq_first (h : memory.Leads name filter held) (hdelivered : memory.Delivered name)
    (identity : Identity) : held identity = filter.first identity memory.present := by
  obtain ⟨box, hbox, hqueue⟩ := h.queued
  obtain ⟨empty, hempty, hnothing⟩ := hdelivered
  cases hbox.symm.trans hempty
  rw [← hqueue, hnothing]
  rfl

/-- A delivery that succeeds hands over what waits. -/
theorem Leads.emptied (h : memory.Leads name filter held) (hpresent : later.present = memory.present)
    (hnext : later.next = memory.next)
    (hmailbox : later.mailboxes.get? name = (memory.mailboxes.get? name).map Mailbox.empty) :
    later.Delivered name ∧ later.Leads name filter fun identity =>
      (((memory.mailboxes.get? name).map Mailbox.queue).getD []).foldl (filter.hold identity)
        (held identity) := by
  obtain ⟨box, hbox, hqueue⟩ := h.queued
  rw [hbox] at hmailbox ⊢
  refine ⟨⟨box.empty, hmailbox, rfl⟩, hnext ▸ h.named, box.empty, hmailbox, fun identity => ?_⟩
  rw [hpresent, ← hqueue identity]
  rfl

/-- A change that goes the way of its announcement. -/
theorem Leads.announce (h : memory.Leads name filter held) {notice : Notice} {present : List Info}
    (hpresent : ∀ identity, filter.first identity present =
      filter.hold identity (filter.first identity memory.present) notice) :
    (({ memory with present } : Memory).announce notice).Leads name filter held := by
  obtain ⟨box, hbox, hqueue⟩ := h.queued
  refine ⟨h.named, box.post notice, ?_, fun identity => ?_⟩
  · rw [get?_announce]
    exact congrArg (Option.map _) hbox
  · change (box.queue ++ [notice]).foldl _ _ = filter.first identity present
    rw [List.foldl_append, hqueue, hpresent]
    rfl

theorem Leads.plug (h : memory.Leads name filter held) (info : Info) :
    (memory.plug info).Leads name filter held :=
  h.announce fun identity => filter.first_append identity memory.present info

theorem Leads.unplug (h : memory.Leads name filter held) (key : String) :
    (memory.unplug key).Leads name filter held :=
  h.announce fun identity => filter.first_filter identity memory.present key

theorem Leads.announced (h : memory.Leads name filter held) {change : Memory → Memory}
    (hchange : Announced change) : (change memory).Leads name filter held := by
  cases hchange with
  | plug info => exact h.plug info
  | unplug key => exact h.unplug key
  | aside _ haside => exact h.spares (haside name memory)

/-- Whoever holds what counts among the devices present may hear of the changes again that led
there. -/
theorem Leads.again (h : memory.Leads name filter held) :
    memory.Leads name filter fun identity => filter.first identity memory.present := by
  obtain ⟨box, hbox, hqueue⟩ := h.queued
  exact ⟨h.named, box, hbox, fun identity => filter.foldl_hold_idem identity (hqueue identity)⟩

/-- The operations of the platform spare a mailbox, those on its own source left out. -/
theorem frame (name : Nat) :
    Platform.Frame (fun memory later : Memory => name < memory.next → Spares name memory later)
      fun source : Subscriber => source.id ≠ name where
  refl memory _ := .refl name memory
  trans _ _ _ h h' hname := (h hname).trans (h' (Nat.lt_of_lt_of_le hname (h hname).next_le))
  enumerate _ filter memory _ := spares_enumerate filter memory (.refl name memory)
  subscribe _ _ memory hname := spares_subscribe hname memory (.refl name memory)
  unsubscribe _ _ hother _ := spares_unsubscribe hother
  drain _ memory hother _ := spares_drain hother memory (.refl name memory)
  openChannel _ info memory _ := spares_open info memory (.refl name memory)
  closeChannel _ _ _ := ⟨rfl, rfl, Nat.le_refl _⟩

end Memory

/-- The mailbox with which a monitor works. -/
def Monitor.mailbox (monitor : Monitor Memory) : Nat :=
  Memory.Subscriber.id monitor.source

namespace Deed

/-- What happens outside is announced, if need be. -/
def Announces (deed : Deed Memory) : Prop :=
  ∀ change, deed = .outside change → Memory.Announced change

/-- Nothing comes or goes outside. -/
def Rests (deed : Deed Memory) : Prop :=
  ∀ change, deed = .outside change → Memory.Aside change

/-- A mailbox is for whoever subscribed. No other monitor starts with it. -/
def Respects (name : Nat) (deed : Deed Memory) : Prop :=
  ∀ origin filter (source : Memory.Subscriber), deed = .settle origin filter source → source.id ≠ name

theorem announces_outside {change : Memory → Memory} (h : Memory.Announced change) :
    (outside change : Deed Memory).Announces := by
  intro other heq
  cases heq
  exact h

theorem Rests.announces {deed : Deed Memory} (h : deed.Rests) : deed.Announces :=
  fun change heq => .aside change (h change heq)

variable {scene : Scene Memory} {deed : Deed Memory}

theorem spares_act (hnamed : name < scene.hub.platform.next) (hrests : deed.Rests)
    (hrespects : deed.Respects name)
    (hothers : ∀ id monitor, deed = .refresh id ∨ deed = .unwatch id →
      scene.hub.monitors.get? id = some monitor → monitor.mailbox ≠ name) :
    Memory.Spares name scene.hub.platform (deed.act scene).hub.platform :=
  Deed.frame (Memory.frame name) scene deed
    (fun change heq _ => hrests change heq name scene.hub.platform) hrespects hothers hnamed

theorem leads_act (h : scene.hub.platform.Leads name filter held) (hannounces : deed.Announces)
    (hrespects : deed.Respects name)
    (hothers : ∀ id monitor, deed = .refresh id ∨ deed = .unwatch id →
      scene.hub.monitors.get? id = some monitor → monitor.mailbox ≠ name) :
    (deed.act scene).hub.platform.Leads name filter held := by
  by_cases houtside : ∃ change, deed = .outside change
  · obtain ⟨change, rfl⟩ := houtside
    exact h.announced (hannounces change rfl)
  · refine h.spares (spares_act h.named (fun change heq => ?_) hrespects hothers)
    exact absurd ⟨change, heq⟩ houtside

end Deed

namespace Scene

variable {scene : Scene Memory} {deed : Deed Memory} {id : MonitorId}

/-- Who works with a mailbox: one monitor, or none yet. -/
def Owned (scene : Scene Memory) (name : Nat) (owner : Option MonitorId) : Prop :=
  ∀ id monitor, scene.hub.monitors.get? id = some monitor → monitor.mailbox = name → owner = some id

theorem Owned.act {owner : Option MonitorId} (howned : scene.Owned name owner) (h : scene.Sound)
    (hrespects : deed.Respects name) : (deed.act scene).Owned name owner := by
  intro id monitor hmonitor hname
  rcases (Deed.step h deed).source id monitor hmonitor with ⟨earlier, hearlier, heq⟩ | ⟨_, _, heq⟩
  · exact howned id earlier hearlier ((congrArg Memory.Subscriber.id heq).symm.trans hname)
  · exact absurd hname (hrespects _ _ _ heq)

theorem Owned.run {owner : Option MonitorId} (howned : scene.Owned name owner) (h : scene.Sound)
    {deeds : List (Deed Memory)} (hdeeds : ∀ deed ∈ deeds, deed.Respects name) :
    (scene.run deeds).Owned name owner :=
  run_keeps (·.Owned name owner) h hdeeds howned fun _ _ hsound hrespects howned =>
    howned.act hsound hrespects

/-- Announcements are collected for a monitor that has not started. -/
structure Collects (scene : Scene Memory) (name : Nat) (filter : Filter) : Prop where
  owned : scene.Owned name none
  leads : ∃ held, scene.hub.platform.Leads name filter held

/-- A monitor is there, and its mailbox leads from what it knows to what is there. -/
structure Watches (scene : Scene Memory) (id : MonitorId) (name : Nat) (filter : Filter) : Prop where
  owned : scene.Owned name (some id)
  watched : ∃ monitor, scene.hub.monitors.get? id = some monitor ∧ monitor.filter = filter ∧
    monitor.mailbox = name ∧
    scene.hub.platform.Leads name filter (scene.hub.roster monitor).infoAt

/-! ### Collecting -/

theorem Collects.subscribe (howned : scene.Owned name none) {source : Memory.Subscriber}
    (hname : source.id = name)
    (hsource : (Memory.subscribe.run scene.hub.platform).ending = .returned source) :
    ((Deed.subscribe () filter).act scene).Collects name filter := by
  obtain ⟨hid, hpresent, hnext, box, hbox, hqueue⟩ := Memory.subscribe_returned hsource
  rw [Deed.act, after_eq_of_nil (Hub.ends_onPlatform (Action.ends_run ..))]
  refine ⟨howned, fun identity => filter.first identity scene.hub.platform.present, ?_, box, ?_, ?_⟩
  · exact Nat.lt_of_le_of_lt (Nat.le_of_eq (hname.symm.trans hid)) hnext
  · exact hname ▸ hbox
  · intro identity
    rw [hqueue]
    exact congrArg (filter.first identity) hpresent.symm

theorem Collects.act (hcollects : scene.Collects name filter) (h : scene.Sound)
    (hannounces : deed.Announces) (hrespects : deed.Respects name) :
    (deed.act scene).Collects name filter := by
  obtain ⟨held, hleads⟩ := hcollects.leads
  refine ⟨hcollects.owned.act h hrespects, held, Deed.leads_act hleads hannounces hrespects ?_⟩
  intro id monitor _ hmonitor hname
  cases hcollects.owned id monitor hmonitor hname

theorem Collects.run (hcollects : scene.Collects name filter) (h : scene.Sound)
    {deeds : List (Deed Memory)} (hdeeds : ∀ deed ∈ deeds, deed.Announces ∧ deed.Respects name) :
    (scene.run deeds).Collects name filter :=
  run_keeps (·.Collects name filter) h hdeeds hcollects
    fun _ _ hsound ⟨hannounces, hrespects⟩ hcollects => hcollects.act hsound hannounces hrespects

/-! ### Starting -/

theorem Collects.settle (hcollects : scene.Collects name filter) (h : scene.Sound)
    {source : Memory.Subscriber} (hname : source.id = name)
    (hsettled : ((Hub.settle () filter source).run scene.hub).ending = .returned id) :
    ((Deed.settle () filter source).act scene).Watches id name filter := by
  cases Hub.settle_cases () filter source scene.hub with
  | started found hfound hends =>
    rw [hends.1] at hsettled
    cases hsettled
    rw [Deed.act, after_eq_of_nil hends]
    have hlisted := Memory.enumerate_returned hfound
    have hspares : Memory.Spares name scene.hub.platform
        ((Platform.enumerate () filter).run scene.hub.platform).state :=
      Memory.spares_enumerate filter scene.hub.platform (.refl name scene.hub.platform)
    generalize ((Platform.enumerate () filter).run scene.hub.platform).state = platform at hspares ⊢
    have habove : (scene.hub.above platform).Sound scene.held := h.above platform
    obtain ⟨monitor, hmonitors, hfilter, hsource, hinfo⟩ := habove.infoAt_begun () filter source found
    refine ⟨?_, monitor, ?_, hfilter, ?_, ?_⟩
    · intro other watching hwatching hother
      rw [hmonitors, Table.get?_insert] at hwatching
      split at hwatching
      · next heq => exact congrArg some heq.symm
      · cases hcollects.owned other watching hwatching hother
    · exact hmonitors ▸ (Table.get?_insert ..).trans (if_pos rfl)
    · exact (congrArg Memory.Subscriber.id hsource).trans hname
    · obtain ⟨held, hleads⟩ := hcollects.leads
      have hheld : (fun identity => filter.first identity platform.present) =
          (((scene.hub.above platform).begun { origin := (), filter, source } found).roster
            monitor).infoAt := by
        funext identity
        rw [hinfo, hlisted, filter.first_filter_passes, hspares.present]
      -- Changes between the two steps are in the listing and in the mailbox.
      exact hheld ▸ (hleads.spares hspares).again
  | failed failure hends =>
    rw [hends.1] at hsettled
    cases hsettled
  | unending hends =>
    rw [hends.1] at hsettled
    cases hsettled

/-! ### Watching -/

/-- A refresh keeps a monitor on its way. One that returns has every announcement delivered; any other
leaves the mailbox alone. -/
theorem Watches.refresh (hwatches : scene.Watches id name filter) (h : scene.Sound) :
    ((Deed.refresh id).act scene).Watches id name filter ∧
      (((Deed.refresh id).act scene).hub.platform.Delivered name ∨
        Memory.Spares name scene.hub.platform ((Deed.refresh id).act scene).hub.platform ∧
          ((Hub.refresh id).run scene.hub).ending.isReturned = false) := by
  have howned : ((Deed.refresh id).act scene).Owned name (some id) := hwatches.owned.act h nofun
  obtain ⟨monitor, hmonitor, rfl, rfl, hleads⟩ := hwatches.watched
  cases Hub.refresh_cases id scene.hub with
  | absent failure hnone hends =>
    rw [hnone] at hmonitor
    cases hmonitor
  | nothing watching ending hwatching hending hdrained hends =>
    cases hwatching.symm.trans hmonitor
    cases Memory.drain_cases monitor.source scene.hub.platform with
    | failed failure later hspares hdrain =>
      have hscene : (Deed.refresh id).act scene = ⟨scene.hub.above later, _⟩ :=
        after_eq (hdrain.2 ▸ hends)
      rw [hscene] at howned ⊢
      refine ⟨⟨howned, monitor, hmonitor, rfl, rfl, hleads.spares hspares⟩, .inr ⟨hspares, ?_⟩⟩
      rw [hends.1]
      cases ending with
      | returned changes => cases hending
      | failed failure => rfl
      | unending => rfl
    | delivered later _ _ _ hdrain => exact absurd rfl (hdrained _ hdrain.1).1
  | delivered watching drained hwatching hdrained hcounts hends =>
    cases hwatching.symm.trans hmonitor
    cases Memory.drain_cases monitor.source scene.hub.platform with
    | failed failure later hspares hdrain =>
      cases hdrained.symm.trans hdrain.1
      rcases hcounts with hfailure | hnotices
      · cases hfailure
      · exact absurd rfl hnotices
    | delivered later hpresent hnext hmailbox hdrain =>
      cases hdrained.symm.trans hdrain.1
      obtain ⟨hdelivered, hlater⟩ := hleads.emptied hpresent hnext hmailbox
      obtain ⟨next, hthere, hfilter, hsource, hinfo⟩ := h.infoAt_adopt hmonitor later
        (((scene.hub.platform.mailboxes.get? monitor.mailbox).map Mailbox.queue).getD [])
      have hstate : ((Platform.drain monitor.source).run scene.hub.platform).state = later := hdrain.2
      rw [hstate] at hends
      rw [Deed.act, after_eq hends] at howned ⊢
      refine ⟨⟨howned, next, hthere, hfilter, congrArg Memory.Subscriber.id hsource, ?_⟩,
        .inl hdelivered⟩
      -- What waited is exactly what the registry still lacked.
      exact funext hinfo ▸ hlater

/-- What others are asked for has nothing to do with the mailbox. -/
theorem Watches.others (hwatches : scene.Watches id name filter) (hrefresh : deed ≠ .refresh id)
    (hunwatch : deed ≠ .unwatch id) (other : MonitorId) (monitor : Monitor Memory)
    (hdeed : deed = .refresh other ∨ deed = .unwatch other)
    (hmonitor : scene.hub.monitors.get? other = some monitor) : monitor.mailbox ≠ name := by
  intro hname
  cases hwatches.owned other monitor hmonitor hname
  exact hdeed.elim hrefresh hunwatch

theorem Watches.act (hwatches : scene.Watches id name filter) (h : scene.Sound)
    (hannounces : deed.Announces) (hrespects : deed.Respects name) (hunwatch : deed ≠ .unwatch id) :
    (deed.act scene).Watches id name filter := by
  by_cases hrefresh : deed = .refresh id
  · subst hrefresh
    exact (hwatches.refresh h).1
  · have hstep := Deed.step h deed
    obtain ⟨monitor, hmonitor, hfilter, hname, hleads⟩ := hwatches.watched
    have hlater := hstep.stays id monitor hrefresh hunwatch hmonitor
    have hheld : ((deed.act scene).hub.roster monitor).infoAt =
        (scene.hub.roster monitor).infoAt := by
      funext identity
      exact Roster.infoAt_continues (h.registries id monitor hmonitor) h.fresh
        (hstep.sound.registries id monitor hlater) hstep.continues identity
    refine ⟨hwatches.owned.act h hrespects, monitor, hlater, hfilter, hname, ?_⟩
    rw [hheld]
    exact Deed.leads_act hleads hannounces hrespects (hwatches.others hrefresh hunwatch)

theorem Watches.run (hwatches : scene.Watches id name filter) (h : scene.Sound)
    {deeds : List (Deed Memory)}
    (hdeeds : ∀ deed ∈ deeds, deed.Announces ∧ deed.Respects name ∧ deed ≠ .unwatch id) :
    (scene.run deeds).Watches id name filter :=
  run_keeps (·.Watches id name filter) h hdeeds hwatches
    fun _ _ hsound ⟨hannounces, hrespects, hunwatch⟩ hwatches =>
      hwatches.act hsound hannounces hrespects hunwatch

/-! ### Resting -/

theorem Watches.delivered_act (hwatches : scene.Watches id name filter) (h : scene.Sound)
    (hdelivered : scene.hub.platform.Delivered name) (hrests : deed.Rests)
    (hrespects : deed.Respects name) (hunwatch : deed ≠ .unwatch id) :
    (deed.act scene).hub.platform.Delivered name := by
  by_cases hrefresh : deed = .refresh id
  · subst hrefresh
    rcases (hwatches.refresh h).2 with hagain | ⟨hspares, -⟩
    · exact hagain
    · exact hdelivered.spares hspares
  · obtain ⟨_, _, _, _, hleads⟩ := hwatches.watched
    exact hdelivered.spares
      (Deed.spares_act hleads.named hrests hrespects (hwatches.others hrefresh hunwatch))

theorem Watches.run_delivered (hwatches : scene.Watches id name filter) (h : scene.Sound)
    (hdelivered : scene.hub.platform.Delivered name) {deeds : List (Deed Memory)}
    (hdeeds : ∀ deed ∈ deeds, deed.Rests ∧ deed.Respects name ∧ deed ≠ .unwatch id) :
    (scene.run deeds).Watches id name filter ∧ (scene.run deeds).hub.platform.Delivered name :=
  run_keeps (fun scene => scene.Watches id name filter ∧ scene.hub.platform.Delivered name) h hdeeds
    ⟨hwatches, hdelivered⟩
    fun _ _ hsound ⟨hrests, hrespects, hunwatch⟩ ⟨hwatches, hdelivered⟩ =>
      ⟨hwatches.act hsound hrests.announces hrespects hunwatch,
        hwatches.delivered_act hsound hdelivered hrests hrespects hunwatch⟩

end Scene

/-- A run in which a monitor of devices in memory takes its two steps and refreshes. Anything may
happen on the way. -/
structure Course where
  /-- The devices to begin with. -/
  memory : Memory
  /-- Which devices are of interest. -/
  filter : Filter
  /-- What happens before the monitor takes its first step. -/
  before : List (Deed Memory)
  /-- What the first step gives the monitor. -/
  source : Memory.Subscriber
  /-- What happens between its two steps. -/
  between : List (Deed Memory)
  /-- The name that the second step gives the monitor. -/
  id : MonitorId
  /-- What happens before the refresh, earlier refreshes of the monitor included. -/
  after : List (Deed Memory)
  /-- What happens after the refresh. -/
  quiet : List (Deed Memory)

namespace Course

variable (course : Course)

/-- Before the first step. -/
def subscribing : Scene Memory :=
  (Scene.initial course.memory).run course.before

/-- Before the second step. -/
def settling : Scene Memory :=
  ((Deed.subscribe () course.filter).act course.subscribing).run course.between

/-- Before the refresh. -/
def refreshing : Scene Memory :=
  ((Deed.settle () course.filter course.source).act course.settling).run course.after

/-- In the end. -/
def last : Scene Memory :=
  ((Deed.refresh course.id).act course.refreshing).run course.quiet

/-- The steps and the refresh succeed. From the first step on devices come and go with announcements
only, and after the refresh not at all. The mailbox is the monitor's own, and the monitor lives on. -/
structure Lawful : Prop where
  before : ∀ deed ∈ course.before, deed.Respects course.source.id
  subscribed : (Memory.subscribe.run course.subscribing.hub.platform).ending = .returned course.source
  between : ∀ deed ∈ course.between, deed.Announces ∧ deed.Respects course.source.id
  settled : ((Hub.settle () course.filter course.source).run course.settling.hub).ending =
    .returned course.id
  after : ∀ deed ∈ course.after,
    deed.Announces ∧ deed.Respects course.source.id ∧ deed ≠ .unwatch course.id
  refreshed : ((Hub.refresh course.id).run course.refreshing.hub).ending.isReturned = true
  quiet : ∀ deed ∈ course.quiet,
    deed.Rests ∧ deed.Respects course.source.id ∧ deed ≠ .unwatch course.id

variable {course}

/-- After a refresh that succeeds a monitor has, for each identity, the first of the devices present
that pass and have it, once, and nothing else; until devices come or go again. -/
theorem converges (h : course.Lawful) :
    ∃ monitor, course.last.hub.monitors.get? course.id = some monitor ∧
      monitor.filter = course.filter ∧
      (monitor.registry.entries.map (·.1)).Nodup ∧
      ∀ identity, (monitor.registry.find? identity).map course.last.hub.records.info? =
        (course.filter.first identity course.last.hub.platform.present).map some := by
  have hsubscribing : course.subscribing.Sound := Scene.sound_run (Scene.sound_initial _) _
  have hsettling : course.settling.Sound := Scene.sound_run (Deed.step hsubscribing _).sound _
  have hrefreshing : course.refreshing.Sound := Scene.sound_run (Deed.step hsettling _).sound _
  have hlast : course.last.Sound := Scene.sound_run (Deed.step hrefreshing _).sound _
  have hnobody : (Scene.initial course.memory).Owned course.source.id none := nofun
  have hsubscribed : ((Deed.subscribe () course.filter).act course.subscribing).Collects
      course.source.id course.filter :=
    .subscribe (hnobody.run (Scene.sound_initial _) h.before) rfl h.subscribed
  have hcollects : course.settling.Collects course.source.id course.filter :=
    hsubscribed.run (Deed.step hsubscribing _).sound h.between
  have hwatches : course.refreshing.Watches course.id course.source.id course.filter :=
    (hcollects.settle hsettling rfl h.settled).run (Deed.step hsettling _).sound h.after
  obtain ⟨hrefreshed, hdelivered | ⟨-, hfailed⟩⟩ := hwatches.refresh hrefreshing
  · obtain ⟨hquiet, hnothing⟩ : course.last.Watches course.id course.source.id course.filter ∧
        course.last.hub.platform.Delivered course.source.id :=
      hrefreshed.run_delivered (Deed.step hrefreshing _).sound hdelivered h.quiet
    obtain ⟨monitor, hmonitor, hfilter, -, hleads⟩ := hquiet.watched
    have hroster := hlast.registries course.id monitor hmonitor
    refine ⟨monitor, hmonitor, hfilter, hroster.identities, fun identity => ?_⟩
    rw [← hleads.eq_first hnothing identity]
    exact Roster.map_info?_find? hroster identity
  · rw [h.refreshed] at hfailed
    cases hfailed

/-- The same port on any path. -/
def port (path : String) : Info :=
  { key := "usb-1", family := .serial, path, vid := 1, pid := 2 }

/-- A port that comes in once more on another path while a monitor starts, is pulled out, and comes in
twice again while a delivery fails and another monitor starts. -/
def replugged : Course where
  memory := ({} : Memory).attach (port "/dev/ttyACM0")
  filter := .any
  before := []
  source := ⟨0, 4⟩
  between := [.outside (·.plug (port "/dev/ttyACM1"))]
  id := 1
  after := [.outside (·.unplug "usb-1"), .outside (·.failNext ⟨.drain, .system⟩), .refresh 1,
    .outside (·.plug (port "/dev/ttyACM1")), .outside (·.plug (port "/dev/ttyACM2")),
    .subscribe () .any, .settle () .any ⟨1, 6⟩, .refresh 2]
  quiet := [.refresh 1]

theorem converges_replugged :
    replugged.Lawful ∧
      replugged.last.hub.platform.present = [port "/dev/ttyACM1", port "/dev/ttyACM2"] ∧
      ∃ monitor, replugged.last.hub.monitors.get? 1 = some monitor ∧ monitor.filter = .any ∧
        (monitor.registry.entries.map (·.1)).Nodup ∧
        ∀ identity, (monitor.registry.find? identity).map replugged.last.hub.records.info? =
          (Filter.any.first identity replugged.last.hub.platform.present).map some := by
  have hlawful : replugged.Lawful := by
    refine ⟨nofun, by decide, ?_, by decide, ?_, by decide, ?_⟩
    · exact List.forall_mem_cons.2 ⟨⟨Deed.announces_outside (.plug _), nofun⟩, nofun⟩
    · intro deed hdeed
      simp only [replugged, List.mem_cons, List.not_mem_nil, or_false] at hdeed
      rcases hdeed with rfl | rfl | rfl | rfl | rfl | rfl | rfl | rfl
      · exact ⟨Deed.announces_outside (.unplug _), nofun, nofun⟩
      · exact ⟨Deed.announces_outside (.aside _ (Memory.aside_failNext _)), nofun, nofun⟩
      · exact ⟨nofun, nofun, nofun⟩
      · exact ⟨Deed.announces_outside (.plug _), nofun, nofun⟩
      · exact ⟨Deed.announces_outside (.plug _), nofun, nofun⟩
      · exact ⟨nofun, nofun, nofun⟩
      · refine ⟨nofun, fun origin filter source heq => ?_, nofun⟩
        cases heq
        decide
      · exact ⟨nofun, nofun, nofun⟩
    · exact List.forall_mem_cons.2 ⟨⟨nofun, nofun, nofun⟩, nofun⟩
  exact ⟨hlawful, by decide, converges hlawful⟩

end Course

end Hotplug
