import Hotplug.Proofs.Backend.Descriptors
import Hotplug.Proofs.Backend.Ledger
import Hotplug.Proofs.Hub.Batches
import Hotplug.Proofs.Rig.Tableau
/-!
# When the descriptor of a monitor has input

Whatever happens to a rig over devices in memory, the descriptor of each monitor has input exactly while
something was announced since the monitor subscribed and was not delivered to it. Every announcement is
delivered once and in order, however often deliveries fail in between and whatever other monitors take
from their mailboxes.

## Main definitions

* `Hotplug.Tableau.Tells`: what goes down in the ledger in a move.
* `Hotplug.Tableau.Unfolds`: what moves lead to, with their ledger.
* `Hotplug.Tableau.Held`: the subscriptions that have not ended.
* `Hotplug.Tableau.Balanced`: mailboxes and descriptors agree with the ledger.
* `Hotplug.Tableau.Hears`: what a monitor is told when it is refreshed.

## Main statements

* `Hotplug.Tableau.leads_iff_unfolds`: whatever happens, there is a ledger of it.
* `Hotplug.Tableau.Balanced.after`, `Hotplug.Tableau.Unfolds.balanced`: one move, and any number.
* `Hotplug.Tableau.ready_while_outstanding`
-/

namespace Hotplug.Tableau

/-- What goes down in the ledger in a move: what is announced from outside, a subscription, and what a
monitor that is refreshed is handed over, unless the delivery fails. -/
def Tells (tableau : Tableau) : Move Memory → Option Event → Prop
  | .deed (.outside change), event =>
    ∃ notice, Memory.Publishes change notice ∧ event = notice.map .announced
  | .deed (.subscribe _ _), event =>
    event = (Memory.subscribe.run tableau.memory).ending.value?.map fun source => .subscribed source.id
  | .deed (.refresh id), event =>
    event = (tableau.hub.monitors.get? id).bind fun monitor =>
      (tableau.memory.handsOver monitor.source).map (.delivered monitor.mailbox)
  | _, event => event = none

/-- Moves lead from one tableau to another, and the ledger says what happened to the mailboxes. -/
inductive Unfolds (start : Tableau) : List Event → Tableau → Prop
  | refl : Unfolds start [] start
  | step {events : List Event} {later : Tableau} (move : Move Memory) (event : Option Event)
    (h : Unfolds start events later) (hallows : later.Allows move) (htells : later.Tells move event) :
    Unfolds start (events ++ event.toList) (later.after move)

/-- The subscription has not ended: a monitor has it, or will take it over. -/
def Held (tableau : Tableau) (source : Memory.Subscriber) : Prop :=
  source ∈ tableau.idle ∨
    ∃ id monitor, tableau.hub.monitors.get? id = some monitor ∧ monitor.source = source

variable {tableau : Tableau} {move : Move Memory} {source : Memory.Subscriber} {events : List Event}

theorem exists_tells (hallows : tableau.Allows move) : ∃ event, tableau.Tells move event := by
  cases move with
  | deed deed =>
    cases deed with
    | outside change =>
      obtain ⟨notice, hpublishes⟩ := Memory.Touch.publishes hallows
      exact ⟨_, notice, hpublishes, rfl⟩
    | _ => exact ⟨_, rfl⟩
  | openRegistered record id => exact ⟨_, rfl⟩
  | arrange set => exact ⟨_, rfl⟩

/-- Whatever happens, there is a ledger of it. -/
theorem leads_iff_unfolds {later : Tableau} :
    tableau.Leads (fun _ _ => True) later ↔ ∃ events, tableau.Unfolds events later := by
  constructor
  · intro h
    induction h with
    | refl => exact ⟨[], .refl⟩
    | step move _ hallows _ ih =>
      obtain ⟨events, hunfolds⟩ := ih
      obtain ⟨event, htells⟩ := exists_tells hallows
      exact ⟨_, hunfolds.step move event hallows htells⟩
  · rintro ⟨events, h⟩
    induction h with
    | refl => exact .refl
    | step move event _ hallows _ ih => exact .step move ih hallows trivial

/-! ### Subscriptions -/

/-- Subscriptions come by subscribing only. -/
theorem Orderly.held_of_after (h : tableau.Orderly) (hallows : tableau.Allows move)
    (hheld : (tableau.after move).Held source) :
    tableau.Held source ∨ ∃ filter, move = .deed (.subscribe () filter) ∧
      (Memory.subscribe.run tableau.memory).ending = .returned source := by
  rcases hheld with hidle | ⟨id, monitor, hmonitor, rfl⟩
  · replace hidle : source ∈ tableau.idleAfter move := hidle
    unfold idleAfter at hidle
    split at hidle
    · next filter =>
      rcases List.mem_append.1 hidle with hnew | hold
      · exact .inr ⟨filter, rfl, Ending.value?_eq_some_iff.1 (Option.mem_toList.1 hnew)⟩
      · exact .inl (.inl hold)
    · exact .inl (.inl (List.mem_of_mem_erase hidle))
    · exact .inl (.inl hidle)
  · cases move with
    | deed deed =>
      rcases (Deed.step h.sound deed).source id monitor hmonitor with
        ⟨earlier, hearlier, heq⟩ | ⟨origin, filter, rfl⟩
      · exact .inl (.inr ⟨id, earlier, hearlier, heq.symm⟩)
      · exact .inl (.inl hallows)
    | openRegistered record entry =>
      have hmonitors := Rig.monitors_openRegistered record entry tableau.rig
      exact .inl (.inr ⟨id, monitor, (congrArg (Table.get? · id) hmonitors).symm.trans hmonitor, rfl⟩)
    | arrange set => exact .inl (.inr ⟨id, monitor, hmonitor, rfl⟩)

/-- Each subscription has a mailbox of its own. -/
theorem Orderly.eq_of_held (h : tableau.Orderly) {other : Memory.Subscriber}
    (hsource : tableau.Held source) (hother : tableau.Held other) (hid : source.id = other.id) :
    source = other := by
  rcases hsource with hsource | ⟨id, monitor, hmonitor, rfl⟩
  · rcases hother with hother | ⟨id, monitor, hmonitor, rfl⟩
    · exact List.inj_on_of_nodup_map h.idle hsource hother hid
    · cases h.free source hsource id monitor hmonitor hid.symm
  · rcases hother with hother | ⟨other, watching, hwatching, rfl⟩
    · cases h.free other hother id monitor hmonitor hid
    · cases (h.alone id monitor hmonitor).2 other watching hwatching hid.symm
      cases hmonitor.symm.trans hwatching
      rfl

theorem Orderly.held_lt (h : tableau.Orderly) (hheld : tableau.Held source) :
    source.id < tableau.memory.next := by
  rcases hheld with hidle | ⟨id, monitor, hmonitor, rfl⟩
  · exact h.named source hidle
  · exact (h.alone id monitor hmonitor).1

/-- A monitor that ends gives its subscription up. -/
theorem Orderly.not_held_of_unwatch (h : tableau.Orderly) {id : MonitorId} {monitor : Monitor Memory}
    (hmonitor : tableau.hub.monitors.get? id = some monitor) :
    ¬(tableau.after (.deed (.unwatch id))).Held monitor.source := by
  rintro (hidle | ⟨other, watching, hwatching, heq⟩)
  · cases h.free monitor.source hidle id monitor hmonitor rfl
  · replace hwatching : ((Hub.unwatch id).run tableau.hub).state.monitors.get? other = some watching :=
      hwatching
    rw [(Hub.ends_unwatch hmonitor).2] at hwatching
    replace hwatching := (Table.get?_erase ..).symm.trans hwatching
    split at hwatching
    · cases hwatching
    · next hne =>
      cases (h.alone id monitor hmonitor).2 other watching hwatching (congrArg Memory.Subscriber.id heq)
      exact hne rfl

/-- A monitor that starts has its mailbox as it was. If it does not start, the subscription ends. -/
theorem Orderly.spares_settle (h : tableau.Orderly) (hidle : source ∈ tableau.idle) {filter : Filter}
    (hstill : (tableau.after (.deed (.settle () filter source))).Held source) :
    Memory.Spares source.id tableau.memory
      (tableau.after (.deed (.settle () filter source))).memory := by
  have hlisted : Memory.Spares source.id tableau.memory
      ((Platform.enumerate () filter).run tableau.memory).state :=
    Memory.spares_enumerate filter tableau.memory (.refl source.id tableau.memory)
  let settling : Action (Hub Memory) MonitorId := Hub.settle () filter source
  have hmemory : (tableau.after (.deed (.settle () filter source))).memory =
    (settling.run tableau.hub).state.platform := rfl
  rw [hmemory]
  cases Hub.settle_cases () filter source tableau.hub with
  | started found hfound hends =>
    rw [hends.2]
    exact hlisted
  | failed failure hends =>
    rcases hstill with hstill | ⟨id, monitor, hmonitor, heq⟩
    · exact absurd hstill (List.Nodup.of_map _ h.idle).not_mem_erase
    · replace hmonitor : ((Hub.settle () filter source).run tableau.hub).state.monitors.get? id =
        some monitor := hmonitor
      rw [hends.2] at hmonitor
      cases h.free source hidle id monitor hmonitor (congrArg Memory.Subscriber.id heq)
  | unending hends =>
    rw [hends.2]
    exact hlisted

/-- Only what is done from outside and deliveries change the mailbox of a subscription that goes on. -/
theorem Orderly.spares_held (h : tableau.Orderly) (hallows : tableau.Allows move)
    (hheld : tableau.Held source) (hstill : (tableau.after move).Held source)
    (houtside : ∀ change, move ≠ .deed (.outside change))
    (hrefresh : ∀ id, move ≠ .deed (.refresh id)) :
    Memory.Spares source.id tableau.memory (tableau.after move).memory := by
  by_cases hstart : ∃ filter, move = .deed (.settle () filter source)
  · obtain ⟨filter, rfl⟩ := hstart
    exact h.spares_settle hallows hstill
  · refine Move.frame (Memory.frame source.id) tableau.stage move
      (fun change heq => absurd heq (houtside change)) (fun origin filter other heq hid => ?_)
      (fun id monitor heq hmonitor hid => ?_) (h.held_lt hheld)
    · subst heq
      cases h.eq_of_held (.inl hallows) hheld hid
      exact hstart ⟨filter, rfl⟩
    · have hunwatch := heq.resolve_left (hrefresh id)
      subst hunwatch
      have hsource : monitor.source = source := h.eq_of_held (.inr ⟨id, monitor, hmonitor, rfl⟩) hheld hid
      exact h.not_held_of_unwatch hmonitor (hsource ▸ hstill)

/-! ### One move -/

/-- Mailboxes and open descriptors agree with the ledger. -/
structure Balanced (tableau : Tableau) (events : List Event) : Prop where
  orderly : tableau.Orderly
  separate : tableau.memory.Separate
  agrees : ∀ source, tableau.Held source → tableau.memory.Agrees events source

theorem Balanced.separate_after (h : tableau.Balanced events) (hallows : tableau.Allows move) :
    (tableau.after move).memory.Separate := by
  refine Move.frame Memory.frame_separate tableau.stage move (fun change heq hseparate => ?_)
    (fun _ _ _ _ => trivial) (fun _ _ _ _ => trivial) h.separate
  subst heq
  obtain ⟨notice, hpublishes⟩ := Memory.Touch.publishes hallows
  exact hpublishes.separate hseparate

theorem tells_refresh_of_some {id : MonitorId} {monitor : Monitor Memory}
    (hmonitor : tableau.hub.monitors.get? id = some monitor) {event : Option Event} :
    tableau.Tells (.deed (.refresh id)) event ↔
      event = (tableau.memory.handsOver monitor.source).map (.delivered monitor.mailbox) := by
  change event = (tableau.hub.monitors.get? id).bind _ ↔ _
  rw [hmonitor]
  rfl

/-- A delivery goes down in the account of its monitor, and in no other. -/
theorem Balanced.agrees_refresh (h : tableau.Balanced events) {id : MonitorId} {event : Option Event}
    (htells : tableau.Tells (.deed (.refresh id)) event) (hheld : tableau.Held source) :
    (tableau.after (.deed (.refresh id))).memory.Agrees (events ++ event.toList) source := by
  have hagrees := h.agrees source hheld
  cases hmonitor : tableau.hub.monitors.get? id with
  | none =>
    have hends : (Hub.refresh id).Ends tableau.hub _ tableau.hub :=
      .bind_failed (Hub.ends_monitor_of_none hmonitor)
    have hmemory : (tableau.after (.deed (.refresh id))).memory = tableau.memory :=
      congrArg Hub.platform hends.2
    have hevent : event = (tableau.hub.monitors.get? id).bind _ := htells
    rw [hmonitor] at hevent
    subst hevent
    exact hagrees.besides (by rw [hmemory]) nofun
  | some monitor =>
    have hmemory : (tableau.after (.deed (.refresh id))).memory =
        ((Memory.drain monitor.source).run tableau.memory).state := Hub.platform_refresh hmonitor
    rw [tells_refresh_of_some hmonitor] at htells
    rw [hmemory]
    cases hfault : tableau.memory.faults.get? .drain with
    | none =>
      rw [Memory.handsOver_of_none hfault] at htells
      subst htells
      rw [(Memory.drain_of_none hfault).2]
      by_cases hown : monitor.source = source
      · subst hown
        exact hagrees.drained
      · have hne : monitor.source.id ≠ source.id := fun hid =>
          hown (h.orderly.eq_of_held (.inr ⟨id, monitor, hmonitor, rfl⟩) hheld hid)
        refine hagrees.besides ((Table.get?_update ..).trans (if_neg hne.symm)) fun other heq => ?_
        cases heq
        exact hne
    | some code =>
      rw [Memory.handsOver_of_some hfault] at htells
      subst htells
      rw [(Memory.drain_of_some hfault).2]
      exact hagrees.besides rfl nofun

theorem Balanced.agrees_subscribe (h : tableau.Balanced events) {filter : Filter} {event : Option Event}
    (htells : tableau.Tells (.deed (.subscribe () filter)) event)
    (hheld : tableau.Held source ∨ (Memory.subscribe.run tableau.memory).ending = .returned source) :
    (tableau.after (.deed (.subscribe () filter))).memory.Agrees (events ++ event.toList) source := by
  change (Memory.subscribe.run tableau.memory).state.Agrees _ source
  replace htells : event = (Memory.subscribe.run tableau.memory).ending.value?.map fun source =>
    .subscribed source.id := htells
  rcases tableau.memory.subscribe_cases with hends | ⟨failure, hends⟩
  · rw [hends.1] at htells hheld
    subst htells
    rw [hends.2]
    rcases hheld with hheld | hnew
    · have hne : source.id ≠ tableau.memory.next := Nat.ne_of_lt (h.orderly.held_lt hheld)
      refine (h.agrees source hheld).besides ((Table.get?_insert ..).trans (if_neg hne)) fun other heq => ?_
      cases heq
      exact hne.symm
    · cases hnew
      exact tableau.memory.agrees_subscribed events
  · rw [hends.1] at htells hheld
    subst htells
    rw [hends.2]
    rcases hheld with hheld | hnew
    · exact (h.agrees source hheld).besides rfl nofun
    · cases hnew

theorem Balanced.agrees_after (h : tableau.Balanced events) (hallows : tableau.Allows move)
    {event : Option Event} (htells : tableau.Tells move event)
    (hstill : (tableau.after move).Held source) :
    (tableau.after move).memory.Agrees (events ++ event.toList) source := by
  have hbefore := h.orderly.held_of_after hallows hstill
  by_cases hsubscribe : ∃ filter, move = .deed (.subscribe () filter)
  · obtain ⟨filter, rfl⟩ := hsubscribe
    exact h.agrees_subscribe htells (hbefore.imp_right fun ⟨_, _, hnew⟩ => hnew)
  have hheld : tableau.Held source :=
    hbefore.resolve_right fun ⟨filter, heq, _⟩ => hsubscribe ⟨filter, heq⟩
  by_cases houtside : ∃ change, move = .deed (.outside change)
  · obtain ⟨change, rfl⟩ := houtside
    obtain ⟨notice, hpublishes, rfl⟩ := htells
    exact (h.agrees source hheld).publishes hpublishes
  by_cases hrefresh : ∃ id, move = .deed (.refresh id)
  · obtain ⟨id, rfl⟩ := hrefresh
    exact h.agrees_refresh htells hheld
  · -- What is left of the moves tells nothing.
    have hevent : event = none := by
      cases move with
      | deed deed =>
        cases deed with
        | outside change => exact absurd ⟨change, rfl⟩ houtside
        | subscribe origin filter => exact absurd ⟨filter, rfl⟩ hsubscribe
        | refresh id => exact absurd ⟨id, rfl⟩ hrefresh
        | _ => exact htells
      | openRegistered record id => exact htells
      | arrange set => exact htells
    subst hevent
    have hspares := h.orderly.spares_held hallows hheld hstill (fun change heq => houtside ⟨change, heq⟩)
      fun id heq => hrefresh ⟨id, heq⟩
    exact (h.agrees source hheld).besides hspares.mailbox nofun

/-- Every move keeps mailboxes and descriptors in agreement with the ledger. -/
theorem Balanced.after (h : tableau.Balanced events) (hallows : tableau.Allows move)
    {event : Option Event} (htells : tableau.Tells move event) :
    (tableau.after move).Balanced (events ++ event.toList) :=
  ⟨h.orderly.after hallows, h.separate_after hallows, fun _ => h.agrees_after hallows htells⟩

theorem balanced_initial (first : MonitorId) (set : DescriptorSet) (entry : UInt32) :
    (initial first set entry).Balanced [] := by
  refine ⟨orderly_initial first set entry, Memory.separate_empty, fun source hheld => ?_⟩
  rcases hheld with hidle | ⟨id, monitor, hmonitor, -⟩
  · cases hidle
  · cases hmonitor

theorem Unfolds.balanced {later : Tableau} (h : tableau.Unfolds events later)
    (hbalanced : tableau.Balanced []) : later.Balanced events := by
  induction h with
  | refl => exact hbalanced
  | step move event _ hallows htells ih => exact ih.after hallows htells

/-! ### Monitors -/

/-- The descriptor of a subscription has no input exactly while nothing is outstanding. -/
theorem Balanced.isQuiet_iff (h : tableau.Balanced events) (hheld : tableau.Held source) :
    tableau.memory.isQuiet source.receiver = true ↔ Event.owedTo source.id events = [] := by
  have hpending := (h.agrees source hheld).pending_eq.1
  obtain ⟨box, hbox, hreceiver, hsignals, -⟩ := h.agrees source hheld
  rw [Memory.pending, hbox] at hpending
  rw [← hpending, ← hreceiver, h.separate.isQuiet_receiver hbox, hsignals]
  exact List.length_eq_zero_iff

/-- What a refresh of a monitor comes to, and the hub that it leaves. The monitor hears of all that waits
for it, or of nothing if a fault waits for the delivery. -/
inductive Hears (tableau : Tableau) (id : MonitorId) (monitor : Monitor Memory) :
    Ending (List Change) → Hub Memory → Prop
  | told (hfault : tableau.memory.faults.get? .drain = none) :
    Hears tableau id monitor
      (.returned (tableau.hub.changes id monitor (tableau.memory.pending monitor.mailbox)))
      ((tableau.hub.refreshed id monitor (tableau.memory.pending monitor.mailbox)).above
        (tableau.memory.drained monitor.source))
  | failed {code : Code} (hfault : tableau.memory.faults.get? .drain = some code) :
    Hears tableau id monitor (.failed (Fault.failure ⟨.drain, code⟩))
      (tableau.hub.above (tableau.memory.entered .drain))

theorem ends_refresh {id : MonitorId} {monitor : Monitor Memory}
    (hmonitor : tableau.hub.monitors.get? id = some monitor) {ending : Ending (List Change)}
    {later : Hub Memory} (h : tableau.Hears id monitor ending later) :
    (Hub.refresh id).Ends tableau.hub ending later := by
  cases h with
  | told hfault =>
    have hdrain : (Hub.onPlatform (Platform.drain monitor.source)).Ends tableau.hub _ _ :=
      Hub.ends_onPlatform (Memory.drain_of_none hfault)
    exact .bind (Hub.ends_monitor hmonitor) (.bind hdrain (Hub.ends_applyNotices ..))
  | failed hfault =>
    have hdrain : (Hub.onPlatform (Platform.drain monitor.source)).Ends tableau.hub _ _ :=
      Hub.ends_onPlatform (Memory.drain_of_some hfault)
    exact .bind (Hub.ends_monitor hmonitor) (.bind hdrain ⟨rfl, rfl⟩)

theorem exists_hears (tableau : Tableau) (id : MonitorId) (monitor : Monitor Memory) :
    ∃ ending later, tableau.Hears id monitor ending later := by
  cases hfault : tableau.memory.faults.get? .drain with
  | none => exact ⟨_, _, .told hfault⟩
  | some code => exact ⟨_, _, .failed hfault⟩

/-- Nothing of what a monitor was told waits for it any more. -/
theorem Hears.pending {id : MonitorId} {monitor : Monitor Memory} {changes : List Change}
    {later : Hub Memory} (h : tableau.Hears id monitor (.returned changes) later) :
    later.platform.pending monitor.mailbox = [] := by
  cases h
  change (tableau.memory.drained monitor.source).pending monitor.source.id = []
  rw [Memory.pending, Memory.drained, Table.get?_update, if_pos rfl, Option.map_map]
  cases tableau.memory.mailboxes.get? monitor.source.id <;> rfl

/-- In every state that moves lead to, the account of a monitor says what was issued to it: what was
handed over, and after that what is in its mailbox. Waiting for its descriptor succeeds exactly while
something is. A refresh hands over all of it, or nothing if the delivery fails. -/
theorem ready_while_outstanding {first : MonitorId} {set : DescriptorSet} {entry : UInt32}
    (h : (initial first set entry).Unfolds events tableau) {id : MonitorId} {monitor : Monitor Memory}
    (hmonitor : tableau.hub.monitors.get? id = some monitor) :
    let name := monitor.mailbox
    let outstanding := Event.owedTo name events
    Event.issuedTo name events = Event.handedTo name events ++ outstanding ∧
    tableau.memory.pending name = outstanding ∧
    (∀ limit, ((Memory.native.readable (Platform.sourceTarget monitor.source) limit).run
      tableau.memory).ending =
        if outstanding ≠ [] then .returned true else if limit < 0 then .unending else .returned false) ∧
    (tableau.memory.faults.get? .drain = none →
      tableau.Tells (.deed (.refresh id)) (some (.delivered name outstanding)) ∧
      ((Hub.refresh id).run tableau.hub).ending =
        .returned ((monitor.watch id).applyAll (tableau.hub.roster monitor) outstanding).2) ∧
    ∀ code, tableau.memory.faults.get? .drain = some code →
      tableau.Tells (.deed (.refresh id)) none ∧
      ((Hub.refresh id).run tableau.hub).ending = .failed (Fault.failure ⟨.drain, code⟩) := by
  intro name outstanding
  have hbalanced : tableau.Balanced events := h.balanced (balanced_initial first set entry)
  have hheld : tableau.Held monitor.source := .inr ⟨id, monitor, hmonitor, rfl⟩
  obtain ⟨hpending, hissued⟩ := (hbalanced.agrees monitor.source hheld).pending_eq
  refine ⟨hissued, hpending, fun limit => ?_, fun hfault => ?_, fun code hfault => ?_⟩
  · have hquiet := hbalanced.isQuiet_iff hheld
    refine (Memory.readable_ending tableau.memory monitor.source.receiver limit).trans ?_
    by_cases hnothing : outstanding = []
    · rw [if_pos (hquiet.2 hnothing), if_neg (not_not.2 hnothing)]
    · rw [if_neg fun h => hnothing (hquiet.1 h), if_pos hnothing]
  · have hending := (ends_refresh hmonitor (.told hfault)).1
    rw [show tableau.memory.pending monitor.mailbox = outstanding from hpending] at hending
    refine ⟨?_, hending⟩
    rw [tells_refresh_of_some hmonitor, Memory.handsOver_of_none hfault, hpending]
    rfl
  · rw [tells_refresh_of_some hmonitor, Memory.handsOver_of_some hfault]
    exact ⟨rfl, (ends_refresh hmonitor (.failed hfault)).1⟩

/-- The same port, on another device. -/
def spare : Info :=
  { Course.port "/dev/ttyACM1" with key := "usb-2" }

/-- Two monitors, and a device that came in while the first one started. The first one was refreshed. -/
def watched : Tableau :=
  (((((((initial 1 {} 1).after
    (.deed (.outside (·.attach (Course.port "/dev/ttyACM0"))))).after
    (.deed (.subscribe () .any))).after
    (.deed (.outside (·.plug spare)))).after
    (.deed (.settle () .any ⟨0, 4⟩))).after
    (.deed (.subscribe () .any))).after
    (.deed (.settle () .any ⟨1, 6⟩))).after
    (.deed (.refresh 1))

/-- Devices went and came. The first monitor was refreshed in vain; the second one was told, and ended. -/
def busy : Tableau :=
  (((((watched.after
    (.deed (.outside (·.unplug "usb-2")))).after
    (.deed (.outside (·.failNext ⟨.drain, .system⟩)))).after
    (.deed (.refresh 1))).after
    (.deed (.refresh 2))).after
    (.deed (.unwatch 2))).after
    (.deed (.outside (·.plug (Course.port "/dev/ttyACM2"))))

theorem tells_silent {change : Memory → Memory} (h : Memory.Touch change)
    (hlingering : (change { lingering := [0] }).lingering = [0]) :
    tableau.Tells (.deed (.outside change)) none := by
  refine ⟨none, h.publishes_none { lingering := [0] } ?_, rfl⟩
  rw [hlingering]
  exact List.cons_ne_nil _ _

theorem unfolds_watched : (initial 1 {} 1).Unfolds
    [.subscribed 0, .announced (.added spare), .subscribed 1, .delivered 0 [.added spare]] watched := by
  have hstart : (initial 1 {} 1).Unfolds [] (initial 1 {} 1) := .refl
  have hattach := hstart.step (.deed (.outside (·.attach (Course.port "/dev/ttyACM0")))) none (.attach _)
    (tells_silent (.attach _) rfl)
  have hsubscribe := hattach.step (.deed (.subscribe () .any)) (some (.subscribed 0)) trivial rfl
  have hplug := hsubscribe.step (.deed (.outside (·.plug spare))) _ (.plug _) ⟨_, .plug _, rfl⟩
  have hsettle := hplug.step (.deed (.settle () .any ⟨0, 4⟩)) none (List.mem_singleton_self _) rfl
  have hagain := hsettle.step (.deed (.subscribe () .any)) (some (.subscribed 1)) trivial rfl
  have hsecond := hagain.step (.deed (.settle () .any ⟨1, 6⟩)) none (List.mem_singleton_self _) rfl
  exact hsecond.step (.deed (.refresh 1)) (some (.delivered 0 [.added spare])) trivial rfl

theorem unfolds_busy : (initial 1 {} 1).Unfolds
    [.subscribed 0, .announced (.added spare), .subscribed 1, .delivered 0 [.added spare],
      .announced (.removed "usb-2"), .delivered 1 [.removed "usb-2"],
      .announced (.added (Course.port "/dev/ttyACM2"))] busy := by
  have hunplug := unfolds_watched.step (.deed (.outside (·.unplug "usb-2"))) _ (.unplug _)
    ⟨_, .unplug _, rfl⟩
  have hfault := hunplug.step (.deed (.outside (·.failNext ⟨.drain, .system⟩))) none (.failNext _)
    (tells_silent (.failNext _) rfl)
  have hvain := hfault.step (.deed (.refresh 1)) none trivial rfl
  have hrefresh := hvain.step (.deed (.refresh 2)) (some (.delivered 1 [.removed "usb-2"])) trivial rfl
  have hunwatch := hrefresh.step (.deed (.unwatch 2)) none trivial rfl
  exact hunwatch.step (.deed (.outside (·.plug (Course.port "/dev/ttyACM2")))) _ (.plug _)
    ⟨_, .plug _, rfl⟩

theorem ready_while_outstanding_busy :
    let events : List Event :=
      [.subscribed 0, .announced (.added spare), .subscribed 1, .delivered 0 [.added spare],
        .announced (.removed "usb-2"), .delivered 1 [.removed "usb-2"],
        .announced (.added (Course.port "/dev/ttyACM2"))]
    let outstanding : List Notice := [.removed "usb-2", .added (Course.port "/dev/ttyACM2")]
    (initial 1 {} 1).Unfolds events busy ∧
    ∃ monitor, busy.hub.monitors.get? 1 = some monitor ∧
      Event.handedTo monitor.mailbox events = [.added spare] ∧
      Event.issuedTo monitor.mailbox events = [.added spare] ++ outstanding ∧
      busy.memory.pending monitor.mailbox = outstanding ∧
      (∀ limit, ((Memory.native.readable (Platform.sourceTarget monitor.source) limit).run
        busy.memory).ending = .returned true) ∧
      busy.Tells (.deed (.refresh 1)) (some (.delivered monitor.mailbox outstanding)) := by
  intro events outstanding
  obtain ⟨hissued, hpending, hready, hhanded, -⟩ :=
    ready_while_outstanding unfolds_busy (show busy.hub.monitors.get? 1 = some _ from rfl)
  exact ⟨unfolds_busy, _, rfl, rfl, hissued, hpending, fun limit => hready limit, (hhanded rfl).1⟩

end Hotplug.Tableau
