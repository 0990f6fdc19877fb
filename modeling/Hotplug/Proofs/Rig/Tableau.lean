import Hotplug.Proofs.Backend.Failing
import Hotplug.Proofs.Hub.Convergence
import Hotplug.Proofs.Rig.References
/-!
# Rigs over devices in memory

Everything that can happen to a rig over devices in memory, from a rig without devices on. Each monitor
starts with a subscription of its own, and so no two monitors ever share a mailbox. Until a monitor is
refreshed with success, what waits in its mailbox stays there, and more may follow.

## Main definitions

* `Hotplug.Tableau`: a rig and the subscriptions that no monitor has taken over.
* `Hotplug.Tableau.Leads`: moves lead from one tableau to another.
* `Hotplug.Tableau.Orderly`: names and mailboxes are in order.
* `Hotplug.Tableau.Awaits`: moves that do not deliver what waits for a monitor.

## Main statements

* `Hotplug.Tableau.Orderly.after`, `Hotplug.Tableau.Leads.orderly`: one move, and any number.
* `Hotplug.Tableau.Orderly.waits_after`, `Hotplug.Tableau.Leads.waits`: what waits for a monitor.
* `Hotplug.Hub.refresh_returned`: a refresh that succeeds delivers all that waits.
-/

namespace Hotplug

/-! ### Moves -/

section Frame

variable {σ : Type} [Platform σ] {relation : σ → σ → Prop} {spared : Platform.Source σ → Prop}

theorem Rig.frame_openRegistered (h : Platform.Frame relation spared) (record : RecordId)
    (id : UInt32) (rig : Rig σ) :
    relation rig.hub.platform ((openRegistered record id).run rig).state.hub.platform := by
  have hkeeps : (openRegistered record id).Hoare
      (fun later : Rig σ => relation rig.hub.platform later.hub.platform)
      fun _ later => relation rig.hub.platform later.hub.platform := by
    refine hoare_openRegistered (fun _ _ h => h) (fun later hlater => ?_)
      fun handle later hlater => ?_
    · exact h.trans _ _ _ hlater
        (Deed.frame h ⟨later.hub, []⟩ (.open_ record) nofun nofun fun _ _ h => nomatch h)
    · exact h.trans _ _ _ hlater
        (Deed.frame h ⟨later.hub, []⟩ (.close handle) nofun nofun fun _ _ h => nomatch h)
  exact hkeeps rig (h.refl _)

/-- What the operations of a platform respect, moves respect. -/
theorem Move.frame (h : Platform.Frame relation spared) (stage : Stage σ) (move : Move σ)
    (houtside : ∀ change, move = .deed (.outside change) →
      relation stage.rig.hub.platform (change stage.rig.hub.platform))
    (hsettle : ∀ origin filter source, move = .deed (.settle origin filter source) → spared source)
    (hmonitor : ∀ id monitor, move = .deed (.refresh id) ∨ move = .deed (.unwatch id) →
      stage.rig.hub.monitors.get? id = some monitor → spared monitor.source) :
    relation stage.rig.hub.platform (move.act stage).rig.hub.platform := by
  cases move with
  | deed deed =>
    refine Deed.frame h stage.scene deed (fun change heq => houtside change (congrArg _ heq))
      (fun origin filter source heq => hsettle origin filter source (congrArg _ heq))
      fun id monitor heq => hmonitor id monitor (heq.imp (congrArg _) (congrArg _))
  | openRegistered record id => exact Rig.frame_openRegistered h record id stage.rig
  | arrange set => exact h.refl _

/-- Opening a device leaves the monitors as they are. -/
theorem Rig.monitors_openRegistered (record : RecordId) (id : UInt32) (rig : Rig σ) :
    ((openRegistered record id).run rig).state.hub.monitors = rig.hub.monitors := by
  have hkeeps : (openRegistered record id).Hoare
      (fun later : Rig σ => later.hub.monitors = rig.hub.monitors)
      fun _ later => later.hub.monitors = rig.hub.monitors := by
    refine hoare_openRegistered (fun _ _ h => h) (fun later hlater => ?_)
      fun handle later hlater => ?_
    · refine Eq.trans ?_ hlater
      change ((Hub.open_ record).run later.hub).state.monitors = later.hub.monitors
      cases Hub.open_cases record later.hub with
      | refused failure hends => rw [hends.2]
      | nothing record ending hends => rw [hends.2]; rfl
      | opened record channel hrecord hends => rw [hends.2]; rfl
    · refine Eq.trans ?_ hlater
      change ((Hub.close handle).run later.hub).state.monitors = later.hub.monitors
      cases Hub.close_cases handle later.hub with
      | refused failure hends => rw [hends.2]
      | closed handle hhandle hends => rw [hends.2]; rfl
  exact hkeeps rig rfl

end Frame

theorem Move.sound {σ : Type} [Platform σ] {stage : Stage σ} (h : stage.scene.Sound) (move : Move σ) :
    (move.act stage).scene.Sound := by
  obtain ⟨deeds, hdeeds⟩ := stage.act_eq move
  exact hdeeds ▸ Scene.sound_run h deeds

/-- Who works with a mailbox goes on alone, if no other monitor starts with it. -/
theorem Move.owned {stage : Stage Memory} {name : Nat} {owner : Option MonitorId}
    (howned : stage.scene.Owned name owner) (h : stage.scene.Sound) (move : Move Memory)
    (hrespects : ∀ deed, move = .deed deed → deed.Respects name) :
    (move.act stage).scene.Owned name owner := by
  cases move with
  | deed deed => exact howned.act h (hrespects deed rfl)
  | openRegistered record id =>
    intro other monitor hmonitor
    refine howned other monitor ?_
    exact (congrArg (Table.get? · other) (Rig.monitors_openRegistered record id stage.rig)).symm.trans
      hmonitor
  | arrange set => exact howned

/-- A monitor keeps its mailbox, and only starting brings a new one. -/
theorem Move.mailbox_of_act {stage : Stage Memory} (h : stage.scene.Sound) {move : Move Memory}
    (hstart : ∀ origin filter source, move ≠ .deed (.settle origin filter source)) {id : MonitorId}
    {monitor : Monitor Memory} (hmonitor : (move.act stage).rig.hub.monitors.get? id = some monitor) :
    ∃ earlier, stage.rig.hub.monitors.get? id = some earlier ∧ monitor.mailbox = earlier.mailbox := by
  cases move with
  | deed deed =>
    rcases (Deed.step h deed).source id monitor hmonitor with ⟨earlier, hearlier, heq⟩ | ⟨_, _, heq⟩
    · exact ⟨earlier, hearlier, congrArg Memory.Subscriber.id heq⟩
    · exact absurd (congrArg Move.deed heq) (hstart _ _ _)
  | openRegistered record id =>
    have hmonitors := Rig.monitors_openRegistered record id stage.rig
    exact ⟨monitor, (congrArg (Table.get? · _) hmonitors).symm.trans hmonitor, rfl⟩
  | arrange set => exact ⟨monitor, hmonitor, rfl⟩

/-- Starting brings one monitor at most, which has the subscription. -/
theorem Deed.monitor_of_settle {σ : Type} [Platform σ] {scene : Scene σ} {origin : Platform.Origin σ}
    {filter : Filter} {source : Platform.Source σ} {id : MonitorId} {monitor : Monitor σ}
    (hmonitor : ((settle origin filter source).act scene).hub.monitors.get? id = some monitor) :
    scene.hub.monitors.get? id = some monitor ∨
      id = scene.hub.nextMonitor ∧ monitor.source = source := by
  cases Hub.settle_cases origin filter source scene.hub with
  | started found hfound hends =>
    rw [act, Scene.after_eq_of_nil hends] at hmonitor
    replace hmonitor := (Table.get?_insert ..).symm.trans hmonitor
    split at hmonitor
    · next heq =>
      cases hmonitor
      exact .inr ⟨heq, rfl⟩
    · exact .inl hmonitor
  | failed failure hends =>
    rw [act, Scene.after_eq_of_nil hends] at hmonitor
    exact .inl hmonitor
  | unending hends =>
    rw [act, Scene.after_eq_of_nil hends] at hmonitor
    exact .inl hmonitor

/-! ### Tableaus -/

/-- A rig over devices in memory, with the records held outside of it and the subscriptions that no
monitor has taken over yet. -/
structure Tableau where
  stage : Stage Memory
  /-- The subscriptions. -/
  idle : List Memory.Subscriber := []

namespace Tableau

/-- The rig. -/
def rig (tableau : Tableau) : Rig Memory :=
  tableau.stage.rig

/-- The hub of the rig. -/
def hub (tableau : Tableau) : Hub Memory :=
  tableau.rig.hub

/-- The devices. -/
def memory (tableau : Tableau) : Memory :=
  tableau.hub.platform

/-- There are no devices, and nothing has happened yet. -/
def initial (monitor : MonitorId) (set : DescriptorSet) (entry : UInt32) : Tableau :=
  ⟨.initial {} monitor set entry, []⟩

/-- The moves that can come next: outside only what is done to devices in memory, and a monitor starts
with a subscription of its own. -/
def Allows (tableau : Tableau) : Move Memory → Prop
  | .deed (.outside change) => Memory.Touch change
  | .deed (.settle _ _ source) => source ∈ tableau.idle
  | _ => True

/-- The subscriptions that no monitor has taken over after a move. -/
def idleAfter (tableau : Tableau) : Move Memory → List Memory.Subscriber
  | .deed (.subscribe _ _) =>
    (Memory.subscribe.run tableau.memory).ending.value?.toList ++ tableau.idle
  | .deed (.settle _ _ source) => tableau.idle.erase source
  | _ => tableau.idle

/-- What a move makes of a tableau. -/
def after (tableau : Tableau) (move : Move Memory) : Tableau :=
  ⟨move.act tableau.stage, tableau.idleAfter move⟩

/-- Moves of a kind lead from one tableau to another. -/
inductive Leads (kind : Tableau → Move Memory → Prop) (start : Tableau) : Tableau → Prop
  | refl : Leads kind start start
  | step {later : Tableau} (move : Move Memory) (h : Leads kind start later)
    (hallows : later.Allows move) (hkind : kind later move) : Leads kind start (later.after move)

/-- Names are not given twice, and each mailbox is for one subscription or for one monitor. -/
structure Orderly (tableau : Tableau) : Prop where
  sound : tableau.stage.scene.Sound
  fresh : tableau.memory.Fresh
  idle : (tableau.idle.map Memory.Subscriber.id).Nodup
  named : ∀ source ∈ tableau.idle, source.id < tableau.memory.next
  /-- No monitor works with a mailbox that is still to be taken over. -/
  free : ∀ source ∈ tableau.idle, tableau.stage.scene.Owned source.id none
  /-- A monitor has its mailbox for itself. -/
  alone : ∀ id monitor, tableau.hub.monitors.get? id = some monitor →
    monitor.mailbox < tableau.memory.next ∧ tableau.stage.scene.Owned monitor.mailbox (some id)

theorem orderly_initial (monitor : MonitorId) (set : DescriptorSet) (entry : UInt32) :
    (initial monitor set entry).Orderly :=
  ⟨Scene.sound_initial _, ⟨fun _ _ => rfl, fun _ _ => rfl⟩, .nil, nofun, nofun, nofun⟩

variable {tableau : Tableau} {move : Move Memory}

theorem Orderly.onward (h : tableau.Orderly) (hallows : tableau.Allows move) :
    tableau.memory.Onward (tableau.after move).memory := by
  refine Move.frame Memory.frame_fresh tableau.stage move (fun change heq hfresh => ?_)
    (fun _ _ _ _ => trivial) (fun _ _ _ _ => trivial) h.fresh
  subst heq
  have hgrows := Memory.Touch.grows hallows tableau.memory
  exact ⟨hgrows.fresh hfresh, Nat.le_of_eq hgrows.next.symm⟩

/-- A move that starts no monitor. -/
theorem Orderly.after_of_ne (h : tableau.Orderly) (hallows : tableau.Allows move)
    (hstart : ∀ origin filter source, move ≠ .deed (.settle origin filter source))
    (hnodup : ((tableau.idleAfter move).map Memory.Subscriber.id).Nodup)
    (hidle : ∀ source ∈ tableau.idleAfter move, source ∈ tableau.idle ∨
      tableau.memory.next ≤ source.id ∧ source.id < (tableau.after move).memory.next) :
    (tableau.after move).Orderly := by
  obtain ⟨hfresh, hnext⟩ := h.onward hallows
  have hkeeps {name : Nat} {owner : Option MonitorId}
      (howned : tableau.stage.scene.Owned name owner) :
      (tableau.after move).stage.scene.Owned name owner :=
    Move.owned howned h.sound move fun _ heq _ _ _ hdeed => absurd (hdeed ▸ heq) (hstart _ _ _)
  refine ⟨Move.sound h.sound move, hfresh, hnodup, fun source hsource => ?_, fun source hsource => ?_,
    fun id monitor hmonitor => ?_⟩
  · rcases hidle source hsource with hold | ⟨-, hlt⟩
    · exact Nat.lt_of_lt_of_le (h.named source hold) hnext
    · exact hlt
  · rcases hidle source hsource with hold | ⟨hnew, -⟩
    · exact hkeeps (h.free source hold)
    · -- The mailboxes of monitors have older names.
      intro id monitor hmonitor hname
      obtain ⟨earlier, hearlier, heq⟩ := Move.mailbox_of_act h.sound hstart hmonitor
      have hlt := (h.alone id earlier hearlier).1
      rw [← heq, hname] at hlt
      exact absurd hlt (Nat.not_lt_of_le hnew)
  · obtain ⟨earlier, hearlier, heq⟩ := Move.mailbox_of_act h.sound hstart hmonitor
    obtain ⟨hlt, howned⟩ := h.alone id earlier hearlier
    rw [heq]
    exact ⟨Nat.lt_of_lt_of_le hlt hnext, hkeeps howned⟩

theorem Orderly.after_subscribe (h : tableau.Orderly) (filter : Filter) :
    (tableau.after (.deed (.subscribe () filter))).Orderly := by
  rcases tableau.memory.subscribe_cases with hends | ⟨failure, hends⟩
  · have hidle : tableau.idleAfter (.deed (.subscribe () filter)) =
        tableau.memory.nextSubscriber :: tableau.idle := by
      rw [idleAfter, hends.1]
      rfl
    refine h.after_of_ne trivial nofun ?_ fun source hsource => ?_
    · rw [hidle, List.map_cons, List.nodup_cons]
      refine ⟨fun hmem => ?_, h.idle⟩
      obtain ⟨source, hsource, heq⟩ := List.mem_map.1 hmem
      exact absurd (h.named source hsource) (heq ▸ Nat.lt_irrefl _)
    · rw [hidle] at hsource
      rcases List.mem_cons.1 hsource with rfl | hold
      · refine .inr ⟨Nat.le_refl _, ?_⟩
        change _ < (Memory.subscribe.run tableau.memory).state.next
        rw [hends.2]
        exact Nat.lt_succ_self _
      · exact .inl hold
  · have hidle : tableau.idleAfter (.deed (.subscribe () filter)) = tableau.idle := by
      rw [idleAfter, hends.1]
      rfl
    exact h.after_of_ne trivial nofun (hidle ▸ h.idle) fun source hsource => .inl (hidle ▸ hsource)

theorem Orderly.after_settle (h : tableau.Orderly) {filter : Filter} {source : Memory.Subscriber}
    (hsource : source ∈ tableau.idle) :
    (tableau.after (.deed (.settle () filter source))).Orderly := by
  obtain ⟨hfresh, hnext⟩ : tableau.memory.Onward
      (tableau.after (.deed (.settle () filter source))).memory := h.onward hsource
  -- Mailboxes with other names stay with whoever works with them.
  have hkeeps {name : Nat} {owner : Option MonitorId} (hother : source.id ≠ name)
      (howned : tableau.stage.scene.Owned name owner) :
      (tableau.after (.deed (.settle () filter source))).stage.scene.Owned name owner := by
    refine Move.owned howned h.sound _ fun deed heq _ _ _ hdeed => ?_
    cases heq
    cases hdeed
    exact hother
  obtain ⟨hnew, hnodup⟩ : source.id ∉ (tableau.idle.erase source).map Memory.Subscriber.id ∧
      ((tableau.idle.erase source).map Memory.Subscriber.id).Nodup :=
    List.nodup_cons.1 (((List.perm_cons_erase hsource).map Memory.Subscriber.id).nodup_iff.1 h.idle)
  refine ⟨Move.sound h.sound _, hfresh, hnodup, fun other hother => ?_, fun other hother => ?_,
    fun id monitor hmonitor => ?_⟩
  · exact Nat.lt_of_lt_of_le (h.named other (List.mem_of_mem_erase hother)) hnext
  · refine hkeeps (fun heq => hnew ?_) (h.free other (List.mem_of_mem_erase hother))
    exact heq ▸ List.mem_map_of_mem hother
  · rcases Deed.monitor_of_settle hmonitor with hold | ⟨hid, hmailbox⟩
    · obtain ⟨hlt, howned⟩ := h.alone id monitor hold
      refine ⟨Nat.lt_of_lt_of_le hlt hnext, hkeeps (fun heq => ?_) howned⟩
      cases h.free source hsource id monitor hold heq.symm
    · have hname : monitor.mailbox = source.id := congrArg Memory.Subscriber.id hmailbox
      rw [hname]
      refine ⟨Nat.lt_of_lt_of_le (h.named source hsource) hnext, fun other watching hwatching heq => ?_⟩
      rcases Deed.monitor_of_settle hwatching with hold | ⟨hother, -⟩
      · cases h.free source hsource other watching hold heq
      · rw [hid, hother]

/-- Every move that can come next leaves the tableau in order. -/
theorem Orderly.after (h : tableau.Orderly) (hallows : tableau.Allows move) :
    (tableau.after move).Orderly := by
  by_cases hstart : ∃ filter source, move = .deed (.settle () filter source)
  · obtain ⟨filter, source, rfl⟩ := hstart
    exact h.after_settle hallows
  by_cases hsubscribe : ∃ filter, move = .deed (.subscribe () filter)
  · obtain ⟨filter, rfl⟩ := hsubscribe
    exact h.after_subscribe filter
  · have hidle : tableau.idleAfter move = tableau.idle := by
      unfold idleAfter
      split
      · next filter => exact absurd ⟨filter, rfl⟩ hsubscribe
      · next filter source => exact absurd ⟨filter, source, rfl⟩ hstart
      · rfl
    refine h.after_of_ne hallows (fun _ filter source heq => hstart ⟨filter, source, heq⟩)
      (hidle ▸ h.idle) fun source hsource => .inl (hidle ▸ hsource)

theorem Leads.orderly {kind : Tableau → Move Memory → Prop} {later : Tableau}
    (hleads : tableau.Leads kind later) (h : tableau.Orderly) : later.Orderly := by
  induction hleads with
  | refl => exact h
  | step move _ hallows _ ih => exact ih.after hallows

/-! ### What waits for a monitor -/

/-- Moves in which a monitor lives on and is not refreshed with success. -/
def Awaits (id : MonitorId) (tableau : Tableau) (move : Move Memory) : Prop :=
  move ≠ .deed (.unwatch id) ∧
    (move = .deed (.refresh id) →
      ((Hub.refresh id).run tableau.hub).ending.isReturned = false)

variable {id : MonitorId} {monitor : Monitor Memory}

/-- A refresh that does not succeed takes nothing out of the mailbox. -/
theorem waits_refresh (hmonitor : tableau.hub.monitors.get? id = some monitor)
    (hfailed : ((Hub.refresh id).run tableau.hub).ending.isReturned = false) :
    (tableau.after (.deed (.refresh id))).hub.monitors = tableau.hub.monitors ∧
      (tableau.after (.deed (.refresh id))).memory = tableau.memory.entered .drain := by
  change ((Hub.refresh id).run tableau.hub).state.monitors = _ ∧
    ((Hub.refresh id).run tableau.hub).state.platform = _
  cases Hub.refresh_cases id tableau.hub with
  | absent failure hnone hends => cases hnone.symm.trans hmonitor
  | nothing watching ending hwatching hending hdrained hends =>
    rw [hends.2]
    exact ⟨rfl, Memory.drain_state fun drained h => (hdrained drained h).1⟩
  | delivered watching drained hwatching hdrained hcounts hends =>
    rw [hends.1] at hfailed
    cases hfailed

/-- What others do leaves the mailbox as it is, or adds to it. -/
theorem Orderly.pending_after (h : tableau.Orderly) (hallows : tableau.Allows move)
    (hmonitor : tableau.hub.monitors.get? id = some monitor) (hrefresh : move ≠ .deed (.refresh id))
    (hunwatch : move ≠ .deed (.unwatch id)) :
    tableau.memory.pending monitor.mailbox <+:
      (tableau.after move).memory.pending monitor.mailbox := by
  obtain ⟨hnamed, howned⟩ := h.alone id monitor hmonitor
  by_cases houtside : ∃ change, move = .deed (.outside change)
  · obtain ⟨change, rfl⟩ := houtside
    exact (Memory.Touch.grows hallows tableau.memory).pending monitor.mailbox
  · have hspares : Memory.Spares monitor.mailbox tableau.memory (tableau.after move).memory := by
      refine Move.frame (Memory.frame monitor.mailbox) tableau.stage move
        (fun change heq => absurd ⟨change, heq⟩ houtside) (fun origin filter source heq hname => ?_)
        (fun other watching heq hwatching hname => ?_) hnamed
      · subst heq
        cases h.free source hallows id monitor hmonitor hname.symm
      · cases howned other watching hwatching hname
        exact heq.elim hrefresh hunwatch
    rw [Memory.pending, ← hspares.mailbox]
    exact List.prefix_rfl

theorem Orderly.waits_after (h : tableau.Orderly) (hallows : tableau.Allows move)
    (hawaits : tableau.Awaits id move) (hmonitor : tableau.hub.monitors.get? id = some monitor) :
    (tableau.after move).hub.monitors.get? id = some monitor ∧
      tableau.memory.pending monitor.mailbox <+:
        (tableau.after move).memory.pending monitor.mailbox := by
  obtain ⟨hunwatch, hfailed⟩ := hawaits
  by_cases hrefresh : move = .deed (.refresh id)
  · subst hrefresh
    obtain ⟨hmonitors, hmemory⟩ := waits_refresh hmonitor (hfailed rfl)
    rw [hmonitors, hmemory]
    exact ⟨hmonitor, List.prefix_rfl⟩
  · refine ⟨?_, h.pending_after hallows hmonitor hrefresh hunwatch⟩
    cases move with
    | deed deed =>
      exact (Deed.step h.sound deed).stays id monitor (fun heq => hrefresh (congrArg _ heq))
        (fun heq => hunwatch (congrArg _ heq)) hmonitor
    | openRegistered record entry =>
      have hmonitors := Rig.monitors_openRegistered record entry tableau.rig
      exact (congrArg (Table.get? · id) hmonitors).trans hmonitor
    | arrange set => exact hmonitor

theorem Leads.waits {later : Tableau} (hleads : tableau.Leads (Awaits id) later) (h : tableau.Orderly)
    (hmonitor : tableau.hub.monitors.get? id = some monitor) :
    later.hub.monitors.get? id = some monitor ∧
      tableau.memory.pending monitor.mailbox <+: later.memory.pending monitor.mailbox := by
  induction hleads with
  | refl => exact ⟨hmonitor, List.prefix_rfl⟩
  | step move hsooner hallows hawaits ih =>
    obtain ⟨hthere, hsome⟩ := ih
    obtain ⟨hlater, hmore⟩ := (hsooner.orderly h).waits_after hallows hawaits hthere
    exact ⟨hlater, hsome.trans hmore⟩

end Tableau

/-- A refresh that succeeds delivers all that waits, and leaves nothing in the mailbox. -/
theorem Hub.refresh_returned {hub : Hub Memory} {id : MonitorId} {monitor : Monitor Memory}
    {changes : List Change} (hmonitor : hub.monitors.get? id = some monitor)
    (h : ((refresh id).run hub).ending = .returned changes) :
    changes = ((monitor.watch id).applyAll (hub.roster monitor)
        (hub.platform.pending monitor.mailbox)).2 ∧
      ((refresh id).run hub).state.platform.pending monitor.mailbox = [] := by
  cases refresh_cases id hub with
  | absent failure hnone hends => cases hnone.symm.trans hmonitor
  | nothing watching ending hwatching hending hdrained hends =>
    rw [hends.1] at h
    subst h
    cases hending
  | delivered watching drained hwatching hdrained hcounts hends =>
    cases hwatching.symm.trans hmonitor
    rw [hends.1] at h
    cases h
    rw [hends.2]
    cases Memory.drain_cases monitor.source hub.platform with
    | failed failure later hspares hdrain =>
      -- A delivery that failed has brought nothing.
      cases hdrained.symm.trans hdrain.1
      rcases hcounts with hfailure | hnotices
      · cases hfailure
      · exact absurd rfl hnotices
    | delivered later hpresent hnext hmailbox hdrain =>
      cases hdrained.symm.trans hdrain.1
      have hstate : ((Platform.drain monitor.source).run hub.platform).state = later := hdrain.2
      refine ⟨rfl, ?_⟩
      change ((Platform.drain monitor.source).run hub.platform).state.pending monitor.mailbox = []
      rw [hstate, Memory.pending, show later.mailboxes.get? monitor.mailbox = _ from hmailbox]
      cases hub.platform.mailboxes.get? monitor.source.id <;> rfl

end Hotplug
