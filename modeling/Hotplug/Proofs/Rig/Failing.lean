import Hotplug.Proofs.Hub.Failing
import Hotplug.Proofs.Rig.Tableau
/-!
# Requests to a rig that fail

Whatever a rig over devices in memory was asked for in vain, it is as it was: the set of descriptors, the
monitors with what they know and with what waits for them, the records with their status and their
references, the open handles, and the devices with their settings. Calls are counted, and faults that
waited are used up. Only a monitor that could not list devices leaves a signalling descriptor behind,
which stays open until the next announcement and can be told.

## Main definitions

* `Hotplug.Request`: what a rig is asked for; `Hotplug.Request.Fails`: in vain.
* `Hotplug.Rig.Unharmed`: what a failed request leaves of a rig.

## Main statements

* `Hotplug.Tableau.failing_harms_nothing`
* `Hotplug.Tableau.failed_watch_leaves_descriptor`: what is left behind changes later answers.
-/

namespace Hotplug

/-- A request to a rig, which may fail. -/
inductive Request
  /-- Add an object to the set. -/
  | add (id : UInt32) (target : Waitable)
  /-- Open the device of a record. -/
  | open_ (record : RecordId)
  /-- Start a monitor. -/
  | watch (filter : Filter)
  /-- Refresh a monitor. -/
  | refresh (id : MonitorId)
  /-- Give a serial line its coding. -/
  | setAttributes (id : HandleId) (bps : UInt32) (flags : Serial.Flags)
  /-- Open the device of a record and add the handle to the set. -/
  | openRegistered (record : RecordId) (id : UInt32)

namespace Rig

/-- Asks the hub for something of which only the success counts. -/
def ask {α : Type} (action : Action (Hub Memory) α) : Action (Rig Memory) (Except RigFailure Unit) := do
  let _ ← onHub action
  return .ok ()

/-- A request came to nothing: the rig is as it was, and so is its hub. -/
structure Unharmed (made : List Operation) (left : List Nat) (rig later : Rig Memory) : Prop where
  set : later.set = rig.set
  monitor : later.monitor = rig.monitor
  monitorEntry : later.monitorEntry = rig.monitorEntry
  hub : rig.hub.Unharmed made left later.hub

variable {rig : Rig Memory} {made : List Operation} {left : List Nat}

theorem Unharmed.ofHub {hub : Hub Memory} (h : rig.hub.Unharmed made left hub) :
    rig.Unharmed made left { rig with hub } :=
  ⟨rfl, rfl, rfl, h⟩

theorem run_ask {α : Type} (action : Action (Hub Memory) α) (rig : Rig Memory) :
    (ask action).run rig = ⟨(action.run rig.hub).ending.map fun _ => .ok (),
      { rig with hub := (action.run rig.hub).state }, (action.run rig.hub).reports⟩ :=
  Action.run_bind_pure (onHub action) (fun _ => Except.ok ()) rig

/-- A handle that cannot be added is closed again. -/
theorem unharmed_openRegistered {held : List RecordId} (hsound : rig.hub.Sound held)
    (hfresh : rig.hub.platform.Fresh) {record : RecordId} {id : UInt32}
    (h : ∀ handle, ((openRegistered record id).run rig).ending ≠ .returned (.ok handle)) :
    ∃ made, rig.Unharmed made [] ((openRegistered record id).run rig).state := by
  rcases Hub.open_ends record rig.hub with
    ⟨failure, made, later, hends, hunharmed⟩ | ⟨known, hrecord, hends⟩
  · have hfailed : (openRegistered record id).Ends rig (.failed failure) _ :=
      .bind_failed (ends_onHub hends)
    rw [hfailed.2]
    exact ⟨made, .ofHub hunharmed⟩
  have hfound : (onHub (Hub.handle rig.hub.nextHandle)).Ends
      { rig with hub := rig.hub.connected record known.info } _ _ :=
    ends_onHub (Hub.ends_handle (rig.hub.get?_handles_connected record known.info))
  cases hadd : rig.set.add id
    (@Platform.channelTarget Memory _ (rig.hub.platform.nextChannel known.info)) with
  | ok set =>
    have hadded : (openRegistered record id).Ends rig (.returned (.ok rig.hub.nextHandle))
        { rig with hub := rig.hub.connected record known.info, set } := by
      refine .bind (ends_onHub hends) (.bind hfound (.bind ⟨rfl, rfl⟩ ?_))
      rw [hadd]
      exact .bind ⟨rfl, rfl⟩ ⟨rfl, rfl⟩
    exact absurd hadded.1 (h _)
  | error refusal =>
    obtain ⟨later, hclose, hunharmed⟩ := Hub.close_connected hsound hfresh hrecord
    let summary := (rig.hub.connected record known.info).summary record
    have hrefused : (openRegistered record id).Ends rig
        (.returned (.error (.setup (registrationMessage summary id refusal.failure))))
        { rig with hub := later } := by
      refine .bind (ends_onHub hends) (.bind hfound (.bind ⟨rfl, rfl⟩ ?_))
      rw [hadd]
      exact .bind ⟨rfl, rfl⟩ (.bind ⟨rfl, rfl⟩ (.bind (ends_onHub hclose) ⟨rfl, rfl⟩))
    rw [hrefused.2]
    exact ⟨[.openDevice], .ofHub hunharmed⟩

end Rig

namespace Request

/-- Asks a rig. -/
def act : Request → Action (Rig Memory) (Except RigFailure Unit)
  | add id target => do
    match (← Action.get).set.add id target with
    | .ok set =>
      Action.modify fun rig => { rig with set }
      return .ok ()
    | .error refusal => Action.fail refusal.failure
  | open_ record => Rig.ask (Hub.open_ record)
  | watch filter => Rig.ask (Hub.watch () filter)
  | refresh id => Rig.ask (Hub.refresh id)
  | setAttributes id bps flags => Rig.ask (Hub.setAttributes id bps flags)
  | openRegistered record id => do
    return (← Rig.openRegistered record id).map fun _ => ()

/-- The request fails. -/
def Fails (request : Request) (rig : Rig Memory) : Prop :=
  (∃ failure, (request.act.run rig).ending = .failed failure) ∨
    ∃ failure, (request.act.run rig).ending = .returned (.error failure)

theorem failed_of_ask {α : Type} {action : Action (Hub Memory) α} {rig : Rig Memory}
    (h : (∃ failure, ((Rig.ask action).run rig).ending = .failed failure) ∨
      ∃ failure, ((Rig.ask action).run rig).ending = .returned (.error failure)) :
    ∃ failure, (action.run rig.hub).ending = .failed failure := by
  rw [Rig.run_ask] at h
  cases hending : (action.run rig.hub).ending with
  | returned value => simp [hending, Ending.map] at h
  | failed failure => exact ⟨failure, rfl⟩
  | unending => simp [hending, Ending.map] at h

/-- A request of the hub of which a failure harms nothing. -/
theorem unharmed_ask {α : Type} {action : Action (Hub Memory) α} {rig : Rig Memory}
    {made : List Operation} {left : List Nat}
    (h : rig.hub.Unharmed made left (action.run rig.hub).state) :
    rig.Unharmed made left ((Rig.ask action).run rig).state := by
  rw [Rig.run_ask]
  exact .ofHub h

/-- What is refused by the set is not in it. -/
theorem unharmed_add {id : UInt32} {target : Waitable} {rig : Rig Memory}
    (h : (add id target).Fails rig) : rig.Unharmed [] [] ((add id target).act.run rig).state := by
  cases hadd : rig.set.add id target with
  | ok set =>
    have hadded : (add id target).act.Ends rig (.returned (.ok ())) { rig with set } := by
      refine .bind ⟨rfl, rfl⟩ ?_
      rw [hadd]
      exact .bind ⟨rfl, rfl⟩ ⟨rfl, rfl⟩
    rcases h with ⟨failure, h⟩ | ⟨failure, h⟩ <;> cases hadded.1.symm.trans h
  | error refusal =>
    have hrefused : (add id target).act.Ends rig (.failed refusal.failure) rig := by
      refine .bind ⟨rfl, rfl⟩ ?_
      rw [hadd]
      exact ⟨rfl, rfl⟩
    rw [hrefused.2]
    exact .ofHub (.refl rig.hub)

/-- A request that fails harms nothing. What is left behind is a signalling descriptor of a monitor that
did not start. -/
theorem unharmed (request : Request) {rig : Rig Memory} {held : List RecordId}
    (hsound : rig.hub.Sound held) (hfresh : rig.hub.platform.Fresh) (h : request.Fails rig) :
    ∃ made left, rig.Unharmed made left (request.act.run rig).state ∧
      (left = [] ∨ ∃ filter, request = .watch filter ∧ made = [.subscribe, .enumerate] ∧
        left = [rig.hub.platform.newPair.1]) := by
  cases request with
  | add id target => exact ⟨[], [], unharmed_add h, .inl rfl⟩
  | open_ record =>
    obtain ⟨failure, hfailed⟩ := failed_of_ask h
    obtain ⟨made, hunharmed⟩ := Hub.unharmed_open hfailed
    exact ⟨made, [], unharmed_ask hunharmed, .inl rfl⟩
  | watch filter =>
    obtain ⟨failure, hfailed⟩ := failed_of_ask h
    obtain ⟨made, left, hunharmed, hleft⟩ := Hub.unharmed_watch hfresh hfailed
    exact ⟨made, left, unharmed_ask hunharmed, hleft.imp_right fun ⟨hmade, hdescriptor⟩ =>
      ⟨filter, rfl, hmade, hdescriptor⟩⟩
  | refresh id =>
    obtain ⟨failure, hfailed⟩ := failed_of_ask h
    obtain ⟨made, hunharmed⟩ := Hub.unharmed_refresh hfailed
    exact ⟨made, [], unharmed_ask hunharmed, .inl rfl⟩
  | setAttributes id bps flags =>
    obtain ⟨failure, hfailed⟩ := failed_of_ask h
    obtain ⟨made, hunharmed⟩ := Hub.unharmed_setAttributes hfailed
    exact ⟨made, [], unharmed_ask hunharmed, .inl rfl⟩
  | openRegistered record id =>
    have hrun := Action.run_bind_pure (Rig.openRegistered record id) (Except.map fun _ => ()) rig
    have hfailed (handle : HandleId) :
        ((Rig.openRegistered record id).run rig).ending ≠ .returned (.ok handle) := by
      intro hopened
      rw [hopened] at hrun
      rcases h with ⟨failure, h⟩ | ⟨failure, h⟩ <;>
        cases (congrArg Outcome.ending hrun).symm.trans h
    obtain ⟨made, hunharmed⟩ := Rig.unharmed_openRegistered hsound hfresh hfailed
    refine ⟨made, [], ?_, .inl rfl⟩
    change rig.Unharmed made [] ((Rig.openRegistered record id >>= fun opened =>
      pure (opened.map fun _ => ())).run rig).state
    rw [hrun]
    exact hunharmed

end Request

namespace Tableau

/-- A request that fails harms nothing: the rig is as it was, but for calls, faults that are used up, and
the signalling descriptor of a monitor that could not list devices, which stays open until the next
announcement. After a refresh that fails, the next one that succeeds delivers all that waited, and what
came meanwhile. -/
theorem failing_harms_nothing {monitor : MonitorId} {set : DescriptorSet} {entry : UInt32}
    {tableau : Tableau} (h : (initial monitor set entry).Leads (fun _ _ => True) tableau) :
    (∀ request : Request, request.Fails tableau.rig →
      ∃ made left, tableau.rig.Unharmed made left (request.act.run tableau.rig).state ∧
        (left = [] ∨ ∃ filter, request = .watch filter ∧ made = [.subscribe, .enumerate] ∧
          left = [tableau.memory.newPair.1]) ∧
        ∀ notice, ((request.act.run tableau.rig).state.hub.platform.announce notice).descriptors =
          (tableau.memory.announce notice).descriptors) ∧
    ∀ id watching, tableau.hub.monitors.get? id = some watching →
      (Request.refresh id).Fails tableau.rig →
      ∀ later, (tableau.after (.deed (.refresh id))).Leads (Awaits id) later →
      ∀ changes, ((Hub.refresh id).run later.hub).ending = .returned changes →
        later.hub.monitors.get? id = some watching ∧
        tableau.memory.pending watching.mailbox <+: later.memory.pending watching.mailbox ∧
        changes = ((watching.watch id).applyAll (later.hub.roster watching)
          (later.memory.pending watching.mailbox)).2 ∧
        ((Hub.refresh id).run later.hub).state.platform.pending watching.mailbox = [] := by
  have horderly : tableau.Orderly := h.orderly (orderly_initial monitor set entry)
  refine ⟨fun request hfails => ?_, fun id watching hwatching hfails later hleads changes hchanges => ?_⟩
  · obtain ⟨made, left, hunharmed, hleft⟩ :=
      request.unharmed horderly.sound horderly.fresh hfails
    exact ⟨made, left, hunharmed, hleft, hunharmed.hub.platform.descriptors_announce⟩
  · obtain ⟨failure, hfailed⟩ := Request.failed_of_ask hfails
    have hnot : ((Hub.refresh id).run tableau.hub).ending.isReturned = false := by
      rw [show ((Hub.refresh id).run tableau.hub).ending = _ from hfailed]
      rfl
    -- The refresh that fails is the first of the moves that deliver nothing.
    have hawaits : tableau.Awaits id (.deed (.refresh id)) := ⟨nofun, fun _ => hnot⟩
    have hallows : tableau.Allows (.deed (.refresh id)) := trivial
    have hfirst : (tableau.after (.deed (.refresh id))).Orderly := horderly.after hallows
    obtain ⟨hthere, hsome⟩ := horderly.waits_after hallows hawaits hwatching
    obtain ⟨hlater, hmore⟩ := hleads.waits hfirst hthere
    obtain ⟨hall, hempty⟩ := Hub.refresh_returned hlater hchanges
    exact ⟨hlater, hsome.trans hmore, hall, hempty⟩

/-- A device that is open, with its handle in the set, and a second one of which the monitor has not
heard, while faults wait. -/
def troubled : Tableau :=
  (((((((initial 1 { capacity := 2 } 2).after
    (.deed (.outside (·.attach (Course.port "/dev/ttyACM0"))))).after
    (.deed (.subscribe () .any))).after
    (.deed (.settle () .any ⟨0, 4⟩))).after
    (.openRegistered 0 7)).after
    (.deed (.outside (·.plug { Course.port "/dev/ttyACM1" with key := "usb-2" })))).after
    (.deed (.outside (·.failNext ⟨.drain, .system⟩)))).after
    (.deed (.outside (·.failNext ⟨.enumerate, .io⟩)))

/-- The monitor was refreshed in vain twice, and a third device came in. -/
def recovered : Tableau :=
  (((troubled.after (.deed (.refresh 1))).after
    (.deed (.outside (·.failNext ⟨.drain, .io⟩)))).after
    (.deed (.refresh 1))).after
    (.deed (.outside (·.plug { Course.port "/dev/ttyACM2" with key := "usb-3" })))

theorem leads_troubled : (initial 1 { capacity := 2 } 2).Leads (fun _ _ => True) troubled := by
  have hsource (tableau : Tableau) (h : tableau.idle = [⟨0, 4⟩]) :
      tableau.Allows (.deed (.settle () .any ⟨0, 4⟩)) := by
    change _ ∈ tableau.idle
    rw [h]
    exact List.mem_singleton_self _
  unfold troubled
  refine .step _ (.step _ (.step _ (.step _ (.step _ (.step _ (.step _ .refl ?_ trivial) ?_ trivial) ?_
    trivial) ?_ trivial) ?_ trivial) ?_ trivial) ?_ trivial
  · exact .attach _
  · trivial
  · exact hsource _ rfl
  · trivial
  · exact .plug _
  · exact .failNext _
  · exact .failNext _

theorem leads_recovered : (troubled.after (.deed (.refresh 1))).Leads (Awaits 1) recovered := by
  refine .step _ (.step _ (.step _ .refl ?_ ⟨nofun, nofun⟩) ?_ ⟨nofun, fun _ => rfl⟩) ?_ ⟨nofun, nofun⟩
  · exact .failNext _
  · trivial
  · exact .plug _

/-- Requests that fail at different points. -/
def requests : List Request :=
  [.add 7 (.fd 20), .open_ 3, .watch .any, .refresh 1, .setAttributes 0 123 .empty,
    .openRegistered 0 7]

theorem fails_troubled : ∀ request ∈ requests, request.Fails troubled.rig := by
  simp only [requests, List.forall_mem_cons]
  exact ⟨.inl ⟨_, rfl⟩, .inl ⟨_, rfl⟩, .inl ⟨_, rfl⟩, .inl ⟨_, rfl⟩, .inl ⟨_, rfl⟩, .inr ⟨_, rfl⟩,
    nofun⟩

theorem failing_harms_nothing_troubled :
    (initial 1 { capacity := 2 } 2).Leads (fun _ _ => True) troubled ∧
    (∀ request ∈ requests, request.Fails troubled.rig ∧
      ∃ made left, troubled.rig.Unharmed made left (request.act.run troubled.rig).state) ∧
    (troubled.after (.deed (.refresh 1))).Leads (Awaits 1) recovered ∧
    ((Hub.refresh 1).run recovered.hub).ending = .returned [.added 1, .added 2] ∧
    ∃ watching, troubled.hub.monitors.get? 1 = some watching ∧
      (troubled.memory.pending watching.mailbox).length = 1 ∧
      troubled.memory.pending watching.mailbox <+: recovered.memory.pending watching.mailbox ∧
      ((Hub.refresh 1).run recovered.hub).state.platform.pending watching.mailbox = [] := by
  obtain ⟨hunharmed, hrefresh⟩ := failing_harms_nothing leads_troubled
  have hchanges : ((Hub.refresh 1).run recovered.hub).ending = .returned [.added 1, .added 2] := rfl
  refine ⟨leads_troubled, fun request hrequest => ⟨fails_troubled request hrequest, ?_⟩,
    leads_recovered, hchanges, _, rfl, rfl, ?_⟩
  · obtain ⟨made, left, hleft, -⟩ := hunharmed request (fails_troubled request hrequest)
    exact ⟨made, left, hleft⟩
  · obtain ⟨-, hwaits, -, hempty⟩ := hrefresh 1 _ rfl
      (fails_troubled _ (by simp [requests])) recovered leads_recovered _ hchanges
    exact ⟨hwaits, hempty⟩

/-- A set in which the descriptor of a handle is left that was closed, while the next listing of devices
will fail. -/
def stale : Tableau :=
  ((((((initial 1 {} 2).after
    (.deed (.outside (·.attach (Course.port "/dev/ttyACM0"))))).after
    (.deed (.enumerate () .any))).after
    (.deed (.open_ 0))).after
    (.arrange { entries := [⟨1, .fd 3⟩] })).after
    (.deed (.close 0))).after
    (.deed (.outside (·.failNext ⟨.enumerate, .io⟩)))

theorem leads_stale : (initial 1 {} 2).Leads (fun _ _ => True) stale := by
  unfold stale
  refine .step _ (.step _ (.step _ (.step _ (.step _ (.step _ .refl ?_ trivial) ?_ trivial) ?_ trivial)
    ?_ trivial) ?_ trivial) ?_ trivial
  · exact .attach _
  · trivial
  · trivial
  · trivial
  · trivial
  · exact .failNext _

/-- The device is opened again, and the set is polled. -/
def reopen : Action (Rig Memory) (List UInt32) := do
  let _ ← Rig.onHub (Hub.open_ 0)
  Rig.poll 0

/-- No count of calls accounts for what a monitor that did not start leaves behind. Its signalling
descriptor has a number that a channel would have got, and a poll shows it. -/
theorem failed_watch_leaves_descriptor :
    (initial 1 {} 2).Leads (fun _ _ => True) stale ∧
    (Request.watch .any).Fails stale.rig ∧
    (∀ made, ¬ stale.rig.Unharmed made [] ((Request.watch .any).act.run stale.rig).state) ∧
    (reopen.run stale.rig).ending = .returned [] ∧
    (reopen.run ((Request.watch .any).act.run stale.rig).state).ending = .returned [1] := by
  refine ⟨leads_stale, .inl ⟨_, rfl⟩, fun made h => ?_, by decide, by decide⟩
  have hlingering : [3] = [] := h.hub.platform.lingering
  cases hlingering

end Tableau

end Hotplug
