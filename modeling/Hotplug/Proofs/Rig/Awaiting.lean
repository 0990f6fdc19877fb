import Hotplug.Proofs.Rig.Signals
import Hotplug.Proofs.Simulation
import Hotplug.Proofs.Wait.Entries
import Hotplug.Proofs.Wait.Remaining
/-!
# Waiting for what a monitor has to tell

A rig polls its set in rounds until the object of its monitor is among those that are ready. Others that
are ready do not keep it from hearing the monitor, and do not make it ask the monitor in vain: while
something waits for the monitor, one poll finds it, and what comes of the refresh comes of the wait. While
nothing does, the rounds change nothing but the time.

## Main definitions

* `Hotplug.Rig.Rounds`: rounds of polling, with what each poll came to.
* `Hotplug.Rig.withHub`, `Hotplug.Rig.withPlatform`: a rig with another hub, or over another state of its
  platform.
* `Hotplug.Rig.Wired`: the object of the monitor is in the set.

## Main statements

* `Hotplug.Rig.ends_of_rounds`
* `Hotplug.Rig.Wired.mem_ready_iff`: when the monitor is among those that are ready.
* `Hotplug.Tableau.next_events`
-/

namespace Hotplug

/-! ### Time that is left -/

/-- What is left of a limit is negative only if the limit is. -/
theorem remainingSince_neg_iff {limit : Int32} {start now : UInt64} :
    (remainingSince limit start now).toInt < 0 ↔ limit < 0 := by
  by_cases hlimit : limit < 0
  · rw [remainingSince_of_neg hlimit]
    exact iff_of_true (by decide) hlimit
  · have hleft : 0 ≤ remainingSince limit start now := remainingSince_nonneg (Int32.not_lt.1 hlimit)
    exact iff_of_false (Int.not_lt.2 (Int32.le_iff_toInt_le.1 hleft)) hlimit

theorem not_neg_of_remainingSince {limit : Int32} {start now : UInt64}
    (h : remainingSince limit start now = 0) : ¬limit < 0 := by
  intro hlimit
  have hneg : (remainingSince limit start now).toInt < 0 := remainingSince_neg_iff.2 hlimit
  rw [h] at hneg
  exact absurd hneg (by decide)

namespace Rig

/-! ### Rounds -/

section Rounds

variable {σ : Type} [Platform σ]

/-- Rounds of polling, at most so many: what each poll came to, how the rounds ended, and the rig that they
left. -/
inductive Rounds (limit : Int32) (start : UInt64) : Nat → Rig σ → List (Ending (List UInt32)) →
    Ending (Except RigFailure (List Change)) → Rig σ → Prop
  | exhausted {rig : Rig σ} : Rounds limit start 0 rig [] .unending rig
  /-- The monitor is among those that are ready. -/
  | told {more : Nat} {rig read polled : Rig σ} {now : UInt64} {found : List UInt32}
    (hclock : millis.Ends rig (.returned now) read)
    (hpoll : (poll (remainingSince limit start now).toInt).Ends read (.returned found) polled)
    (htold : polled.monitorEntry ∈ found) :
    Rounds limit start (more + 1) rig [.returned found] ((refresh.run polled).ending.map .ok)
      (refresh.run polled).state
  /-- It is not, and the time is up. -/
  | late {more : Nat} {rig read polled : Rig σ} {now : UInt64} {found : List UInt32}
    (hclock : millis.Ends rig (.returned now) read)
    (hpoll : (poll (remainingSince limit start now).toInt).Ends read (.returned found) polled)
    (hnot : polled.monitorEntry ∉ found)
    (hover : remainingSince limit start now = 0 ∨ found = [] ∧ 0 ≤ limit) :
    Rounds limit start (more + 1) rig [.returned found]
      (.returned (.error (.timeout (Duration.ofMillis limit.toInt.toNat)))) polled
  /-- Only others are ready. -/
  | again {more : Nat} {rig read polled later : Rig σ} {now : UInt64} {found : List UInt32}
    {polls : List (Ending (List UInt32))} {ending : Ending (Except RigFailure (List Change))}
    (hclock : millis.Ends rig (.returned now) read)
    (hpoll : (poll (remainingSince limit start now).toInt).Ends read (.returned found) polled)
    (hnot : polled.monitorEntry ∉ found)
    (hmore : ¬(remainingSince limit start now = 0 ∨ found = [] ∧ 0 ≤ limit))
    (hlater : Rounds limit start more (native.sleep 1 polled) polls ending later) :
    Rounds limit start (more + 1) rig (.returned found :: polls) ending later
  | failed {more : Nat} {rig read polled : Rig σ} {now : UInt64} {failure : Failure}
    (hclock : millis.Ends rig (.returned now) read)
    (hpoll : (poll (remainingSince limit start now).toInt).Ends read (.failed failure) polled) :
    Rounds limit start (more + 1) rig [.failed failure] (.failed failure) polled
  | endless {more : Nat} {rig read polled : Rig σ} {now : UInt64}
    (hclock : millis.Ends rig (.returned now) read)
    (hpoll : (poll (remainingSince limit start now).toInt).Ends read .unending polled) :
    Rounds limit start (more + 1) rig [.unending] .unending polled

variable {limit : Int32} {start : UInt64} {tries : Nat} {rig later : Rig σ}
  {polls : List (Ending (List UInt32))} {ending : Ending (Except RigFailure (List Change))}

/-- The rounds are those that the rig makes. -/
theorem ends_of_rounds (h : Rounds limit start tries rig polls ending later) :
    (rounds limit start tries).Ends rig ending later := by
  induction h with
  | exhausted => exact ⟨rfl, rfl⟩
  | told hclock hpoll htold =>
    refine hclock.bind (hpoll.bind (.bind ⟨rfl, rfl⟩ ?_))
    rw [if_pos (List.contains_iff_mem.2 htold), Action.Ends, Action.run_bind_pure]
    exact ⟨rfl, rfl⟩
  | late hclock hpoll hnot hover =>
    refine hclock.bind (hpoll.bind (.bind ⟨rfl, rfl⟩ ?_))
    rw [if_neg (mt List.contains_iff_mem.1 hnot), if_pos hover]
    exact ⟨rfl, rfl⟩
  | again hclock hpoll hnot hmore _ ih =>
    refine hclock.bind (hpoll.bind (.bind ⟨rfl, rfl⟩ ?_))
    rw [if_neg (mt List.contains_iff_mem.1 hnot), if_neg hmore]
    exact .bind ⟨rfl, rfl⟩ ih
  | failed hclock hpoll => exact hclock.bind hpoll.bind_failed
  | endless hclock hpoll => exact hclock.bind hpoll.bind_unending

/-- A rig with another hub. -/
def withHub (rig : Rig σ) (hub : Hub σ) : Rig σ :=
  { rig with hub }

/-- What a refresh of its monitor is to the hub, it is to the rig. -/
theorem ends_refresh {ending : Ending (List Change)} {hub : Hub σ}
    (h : (Hub.refresh rig.monitor).Ends rig.hub ending hub) :
    refresh.Ends rig ending (rig.withHub hub) :=
  .bind ⟨rfl, rfl⟩ (ends_onHub h)

/-- A rig over another state of its platform. -/
def withPlatform (rig : Rig σ) (platform : σ) : Rig σ :=
  { rig with hub := { rig.hub with platform } }

/-- What a rig waits for, its platform waits for. -/
theorem mirrors_native (rig : Rig σ) : NativeWait.Mirrors rig.withPlatform Platform.native native where
  limit := rfl
  now _ := ⟨rfl, rfl⟩
  ask _ _ _ := rfl
  patience _ _ := rfl
  output _ _ _ := rfl

end Rounds

/-! ### A rig that waits for its monitor -/

/-- The object of the monitor is in the set under the number that is kept for it, no number is used twice,
and the set has descriptors only. -/
structure Wired (rig : Rig Memory) (monitor : Monitor Memory) : Prop where
  runs : rig.hub.monitors.get? rig.monitor = some monitor
  entry : ⟨rig.monitorEntry, Platform.sourceTarget monitor.source⟩ ∈ rig.set.entries
  orderly : rig.set.Orderly
  descriptors : ∃ fds : List Int, rig.set.targets = fds.map .fd

section Waiting

variable {rig : Rig Memory} {monitor : Monitor Memory} {fds : List Int} {memory : Memory}

/-- A set has among its ready numbers those of the descriptors with input. -/
theorem mem_idsAt_iff {set : DescriptorSet} (hfds : set.targets = fds.map .fd) {id : UInt32} :
    id ∈ set.idsAt (memory.readyPlaces fds) ↔
      ∃ fd : Int, ⟨id, .fd fd⟩ ∈ set.entries ∧ memory.isQuiet fd.toNat = false := by
  have hplace (place : Nat) : set.entries[place]?.map DescriptorSet.Entry.target =
      fds[place]?.map Waitable.fd := by
    rw [← List.getElem?_map, ← List.getElem?_map, ← hfds]
    rfl
  constructor
  · intro hmem
    obtain ⟨place, hready, hid⟩ := List.mem_filterMap.1 hmem
    obtain ⟨⟨fd, other⟩, hfd, hkept⟩ := List.mem_filterMap.1 hready
    obtain ⟨hquiet, hother⟩ := Option.ite_none_left_eq_some.1 hkept
    cases hother
    obtain ⟨entry, hentry, rfl⟩ := Option.map_eq_some_iff.1 hid
    have htarget := hplace place
    rw [hentry, List.mem_zipIdx_iff_getElem?.1 hfd] at htarget
    have heq : entry = ⟨entry.id, .fd fd⟩ :=
      congrArg (DescriptorSet.Entry.mk entry.id) (Option.some.inj htarget)
    exact ⟨fd, heq ▸ List.mem_of_getElem? hentry, Bool.eq_false_iff.2 hquiet⟩
  · rintro ⟨fd, hentry, hquiet⟩
    obtain ⟨place, hentry⟩ := List.getElem?_of_mem hentry
    have htarget := hplace place
    rw [hentry] at htarget
    obtain ⟨other, hother, heq⟩ := Option.map_eq_some_iff.1 htarget.symm
    cases heq
    refine List.mem_filterMap.2 ⟨place, List.mem_filterMap.2 ⟨(fd, place), ?_, ?_⟩, ?_⟩
    · exact List.mem_zipIdx_iff_getElem?.2 hother
    · exact if_neg (Bool.eq_false_iff.1 hquiet)
    · rw [hentry]
      rfl

theorem Wired.mem_ready_iff (h : rig.Wired monitor) (hfds : rig.set.targets = fds.map .fd) :
    rig.monitorEntry ∈ rig.set.idsAt (memory.readyPlaces fds) ↔
      memory.isQuiet monitor.source.receiver = false := by
  rw [mem_idsAt_iff hfds]
  constructor
  · rintro ⟨fd, hentry, hquiet⟩
    -- The number is used once.
    have hsame : (Waitable.fd fd) = Platform.sourceTarget monitor.source := by
      have hget := h.orderly.get?_eq_some_iff.2 hentry
      rw [h.orderly.get?_eq_some_iff.2 h.entry] at hget
      exact (Option.some.inj hget).symm
    cases hsame
    exact hquiet
  · intro hquiet
    exact ⟨monitor.source.receiver, h.entry, hquiet⟩

theorem Wired.isEmpty_set (h : rig.Wired monitor) : rig.set.isEmpty = false := by
  rw [DescriptorSet.isEmpty, List.isEmpty_eq_false_iff]
  exact List.ne_nil_of_mem h.entry

/-- What a poll comes to, and what it leaves. -/
theorem Wired.run_poll (h : rig.Wired monitor) (hfds : rig.set.targets = fds.map .fd) (limit : Int)
    (memory : Memory) :
    (poll limit).Ends (rig.withPlatform memory)
      (((Memory.native.waitAll (fds.map .fd) limit rig.set.slice).run memory).ending.map rig.set.idsAt)
      (rig.withPlatform ((Memory.native.waitAll (fds.map .fd) limit rig.set.slice).run memory).state) := by
  have hwait := (mirrors_native rig).toMirrors.waitAll rig.set.targets limit rig.set.slice memory
  have hget : (Action.get : Action (Rig Memory) (Rig Memory)).Ends (rig.withPlatform memory)
      (.returned (rig.withPlatform memory)) (rig.withPlatform memory) := ⟨rfl, rfl⟩
  refine hget.bind ?_
  change (rig.set.pollWith native.toPrimitive limit).Ends _ _ _
  unfold DescriptorSet.pollWith
  rw [if_neg (by rw [h.isEmpty_set]; exact Bool.false_ne_true), Action.Ends, Action.run_bind_pure,
    ← hwait, hfds]
  exact ⟨rfl, rfl⟩

theorem Wired.ends_poll_ready (h : rig.Wired monitor) (hfds : rig.set.targets = fds.map .fd)
    (hready : memory.readyPlaces fds ≠ []) (limit : Int) :
    (poll limit).Ends (rig.withPlatform memory) (.returned (rig.set.idsAt (memory.readyPlaces fds)))
      (rig.withPlatform memory) := by
  have hpoll := h.run_poll hfds limit memory
  obtain ⟨hending, hstate⟩ := Memory.ends_waitAll_ready hready limit rig.set.slice
  rw [hending, hstate] at hpoll
  exact hpoll

theorem Wired.ends_poll_quiet (h : rig.Wired monitor) (hfds : rig.set.targets = fds.map .fd)
    (hquiet : memory.readyPlaces fds = []) (limit : Int) :
    ∃ clock, (poll limit).Ends (rig.withPlatform memory) (if limit < 0 then .unending else .returned [])
      (rig.withPlatform (memory.atTime clock)) := by
  have hpoll := h.run_poll hfds limit memory
  obtain ⟨clock, hstate⟩ := Memory.waitAll_state (fds.map .fd) limit rig.set.slice memory
  rw [Memory.waitAll_ending_quiet hquiet limit rig.set.slice, hstate] at hpoll
  refine ⟨clock, ?_⟩
  split
  next hlimit =>
    rw [if_pos hlimit] at hpoll
    exact hpoll
  next hlimit =>
    rw [if_neg hlimit] at hpoll
    exact hpoll

/-- While the monitor has nothing to tell, a poll does not find it. It may find others, and with no limit it
may find nothing for ever. -/
theorem Wired.poll_quiet (h : rig.Wired monitor)
    (hquiet : memory.isQuiet monitor.source.receiver = true) (limit : Int) (clock : Nat) :
    ∃ ending later, (poll limit).Ends (rig.withPlatform (memory.atTime clock)) ending
        (rig.withPlatform (memory.atTime later)) ∧
      (ending = .unending ∨ ∃ found, ending = .returned found ∧ rig.monitorEntry ∉ found) := by
  obtain ⟨fds, hfds⟩ := h.descriptors
  by_cases hnone : (memory.atTime clock).readyPlaces fds = []
  · obtain ⟨later, hpoll⟩ := h.ends_poll_quiet hfds hnone limit
    refine ⟨_, later, hpoll, ?_⟩
    split
    · exact .inl rfl
    · exact .inr ⟨[], rfl, List.not_mem_nil⟩
  · refine ⟨_, clock, h.ends_poll_ready hfds hnone limit, .inr ⟨_, rfl, fun hmem => ?_⟩⟩
    have hready : (memory.atTime clock).isQuiet monitor.source.receiver = false :=
      (h.mem_ready_iff hfds).1 hmem
    exact Bool.false_ne_true (hready.symm.trans hquiet)

theorem ends_millis (rig : Rig Memory) (memory : Memory) :
    millis.Ends (rig.withPlatform memory) (.returned (.ofNat (memory.clock / Deadline.perMilli)))
      (rig.withPlatform memory) :=
  ⟨rfl, rfl⟩

/-- While the monitor has something to tell, the first poll finds it, whatever else is ready. -/
theorem Wired.rounds_told (h : rig.Wired monitor)
    (hready : memory.isQuiet monitor.source.receiver = false) {ending : Ending (List Change)}
    {later : Rig Memory} (hrefresh : refresh.Ends (rig.withPlatform memory) ending later)
    (limit : Int32) (start : UInt64) (more : Nat) :
    ∃ found, rig.monitorEntry ∈ found ∧ Rounds limit start (more + 1) (rig.withPlatform memory)
      [.returned found] (ending.map .ok) later := by
  obtain ⟨fds, hfds⟩ := h.descriptors
  have hmem := (h.mem_ready_iff hfds).2 hready
  have hplaces : memory.readyPlaces fds ≠ [] := by
    intro hnone
    rw [hnone] at hmem
    cases hmem
  have hrounds : Rounds limit start (more + 1) (rig.withPlatform memory) _ _ _ :=
    .told (ends_millis rig memory) (h.ends_poll_ready hfds hplaces _) hmem
  rw [hrefresh.1, hrefresh.2] at hrounds
  exact ⟨_, hmem, hrounds⟩

/-- While it has not, rounds change nothing but the time. No poll finds it, and only a limit that can run
out brings the rounds to an end. -/
theorem Wired.rounds_quiet (h : rig.Wired monitor)
    (hquiet : memory.isQuiet monitor.source.receiver = true) (limit : Int32) (start : UInt64)
    (tries : Nat) (clock : Nat) :
    ∃ polls ending later,
      Rounds limit start tries (rig.withPlatform (memory.atTime clock)) polls ending
        (rig.withPlatform (memory.atTime later)) ∧
      (∀ found, .returned found ∈ polls → rig.monitorEntry ∉ found) ∧
      (ending = .unending ∨ 0 ≤ limit ∧
        ending = .returned (.error (.timeout (Duration.ofMillis limit.toInt.toNat)))) := by
  induction tries generalizing clock with
  | zero => exact ⟨[], .unending, clock, .exhausted, nofun, .inl rfl⟩
  | succ more ih =>
    -- Which time it is does not matter, only whether it is up.
    obtain ⟨now, hclock⟩ : ∃ now, millis.Ends (rig.withPlatform (memory.atTime clock)) (.returned now)
        (rig.withPlatform (memory.atTime clock)) := ⟨_, ends_millis rig _⟩
    obtain ⟨_, later, hpoll, rfl | ⟨found, rfl, hnot⟩⟩ :=
      h.poll_quiet hquiet (remainingSince limit start now).toInt clock
    · exact ⟨[.unending], .unending, later, .endless hclock hpoll, by simp, .inl rfl⟩
    · by_cases hover : remainingSince limit start now = 0 ∨ found = [] ∧ 0 ≤ limit
      · -- Of a limit that cannot run out, there is always some left.
        have hfinite : 0 ≤ limit := by
          rcases hover with hzero | ⟨-, hfinite⟩
          · exact Int32.not_lt.1 (not_neg_of_remainingSince hzero)
          · exact hfinite
        refine ⟨[.returned found], _, later, .late hclock hpoll hnot hover, ?_, .inr ⟨hfinite, rfl⟩⟩
        intro other hother
        cases List.mem_singleton.1 hother
        exact hnot
      · obtain ⟨polls, ending, last, hrounds, hothers, hending⟩ := ih (later + 1 * Deadline.perMilli)
        refine ⟨.returned found :: polls, ending, last, .again hclock hpoll hnot hover hrounds, ?_,
          hending⟩
        intro other hother
        rcases List.mem_cons.1 hother with heq | hlater
        · cases heq
          exact hnot
        · exact hothers other hlater

end Waiting

/-- A wait for news, poll by poll: what the polls came to, how it ended, and the rig that it left. -/
def Awaits {σ : Type} [Platform σ] (limit : Int32) (rig : Rig σ) (polls : List (Ending (List UInt32)))
    (ending : Ending (Except RigFailure (List Change))) (later : Rig σ) : Prop :=
  (∃ start read, millis.Ends rig (.returned start) read ∧
    Rounds limit start (limit.toInt.toNat + 2) read polls ending later) ∧
  (nextEvents limit).Ends rig ending later

theorem awaits_of_rounds {limit : Int32} {rig later : Rig Memory} {polls : List (Ending (List UInt32))}
    {ending : Ending (Except RigFailure (List Change))}
    (h : Rounds limit (.ofNat (rig.hub.platform.clock / Deadline.perMilli)) (limit.toInt.toNat + 2) rig
      polls ending later) : rig.Awaits limit polls ending later :=
  have hclock := ends_millis rig rig.hub.platform
  ⟨⟨_, _, hclock, h⟩, hclock.bind (ends_of_rounds h)⟩

end Rig

namespace Tableau

variable {tableau : Tableau} {monitor : Monitor Memory}

/-- In every state that moves lead to, with any descriptors in the set next to that of the monitor, ready
or not, and for every limit: while something waits for the monitor, the wait polls once, finds it, and
comes to what a refresh comes to. The monitor hears of all that waited and nothing waits any more, or a
fault was to make the delivery fail. While nothing waits, no poll finds the monitor, and the rig is left as
it was but for the time; the wait fails because time is up only if the limit can run out. -/
theorem next_events {first : MonitorId} {set : DescriptorSet} {entry : UInt32}
    (h : (initial first set entry).Leads (fun _ _ => True) tableau)
    (hwired : tableau.rig.Wired monitor) (limit : Int32) :
    (tableau.memory.pending monitor.mailbox ≠ [] →
      ∃ found ending hub, tableau.rig.monitorEntry ∈ found ∧
        (Hub.refresh tableau.rig.monitor).Ends tableau.hub ending hub ∧
        Rig.refresh.Ends tableau.rig ending (tableau.rig.withHub hub) ∧
        tableau.rig.Awaits limit [.returned found] (ending.map .ok) (tableau.rig.withHub hub) ∧
        tableau.Hears tableau.rig.monitor monitor ending hub ∧
        ∀ changes, ending = .returned changes → hub.platform.pending monitor.mailbox = []) ∧
    (tableau.memory.pending monitor.mailbox = [] →
      ∃ polls ending clock,
        tableau.rig.Awaits limit polls ending (tableau.rig.withPlatform (tableau.memory.atTime clock)) ∧
        (∀ found, .returned found ∈ polls → tableau.rig.monitorEntry ∉ found) ∧
        (ending = .unending ∨ 0 ≤ limit ∧
          ending = .returned (.error (.timeout (Duration.ofMillis limit.toInt.toNat))))) := by
  obtain ⟨events, hunfolds⟩ := leads_iff_unfolds.1 h
  have hbalanced : tableau.Balanced events := hunfolds.balanced (balanced_initial first set entry)
  have hheld : tableau.Held monitor.source := .inr ⟨_, monitor, hwired.runs, rfl⟩
  have hquiet : tableau.memory.isQuiet monitor.source.receiver = true ↔
      tableau.memory.pending monitor.mailbox = [] := by
    have hpending := (hbalanced.agrees monitor.source hheld).pending_eq.1
    rw [hbalanced.isQuiet_iff hheld, ← hpending]
    rfl
  constructor
  · intro hpending
    have hready := Bool.eq_false_iff.2 (mt hquiet.1 hpending)
    obtain ⟨ending, hub, hhears⟩ := tableau.exists_hears tableau.rig.monitor monitor
    have hhub := ends_refresh hwired.runs hhears
    have hrig := Rig.ends_refresh hhub
    obtain ⟨found, hfound, hrounds⟩ :=
      hwired.rounds_told hready hrig limit _ (limit.toInt.toNat + 1)
    refine ⟨found, ending, hub, hfound, hhub, hrig, Rig.awaits_of_rounds hrounds, hhears, ?_⟩
    rintro changes rfl
    exact hhears.pending
  · intro hnothing
    obtain ⟨polls, ending, clock, hrounds, hothers, hending⟩ :=
      hwired.rounds_quiet (hquiet.2 hnothing) limit _ (limit.toInt.toNat + 2) tableau.memory.clock
    exact ⟨polls, ending, clock, Rig.awaits_of_rounds hrounds, hothers, hending⟩

/-- The first monitor's descriptor is in the set, behind one that is not open and so is always ready. -/
def listening : Tableau :=
  busy.after (.arrange { entries := [⟨7, .fd 30⟩, ⟨1, .fd 4⟩] })

/-- What waited for the first monitor was delivered. -/
def rested : Tableau :=
  listening.after (.deed (.refresh 1))

theorem leads_listening : (initial 1 {} 1).Leads (fun _ _ => True) listening :=
  .step _ (leads_iff_unfolds.2 ⟨_, unfolds_busy⟩) trivial trivial

theorem next_events_listening :
    (∃ found hub, 1 ∈ found ∧ (Hub.refresh 1).Ends listening.hub (.returned [.removed 1]) hub ∧
      listening.rig.Awaits (-1) [.returned found] (.returned (.ok [.removed 1]))
        (listening.rig.withHub hub) ∧
      hub.platform.pending 0 = []) ∧
    ∃ polls ending clock,
      rested.rig.Awaits 0 polls ending (rested.rig.withPlatform (rested.memory.atTime clock)) ∧
      ∀ found, .returned found ∈ polls → 1 ∉ found := by
  have horderly : ({ entries := [⟨7, .fd 30⟩, ⟨1, .fd 4⟩] } : DescriptorSet).Orderly :=
    ⟨by decide, by decide, by decide⟩
  have hlistening : listening.rig.Wired _ :=
    ⟨show listening.hub.monitors.get? 1 = some _ from rfl, by decide, horderly, [30, 4], rfl⟩
  have hrested : rested.rig.Wired _ :=
    ⟨show rested.hub.monitors.get? 1 = some _ from rfl, by decide, horderly, [30, 4], rfl⟩
  have hleads : (initial 1 {} 1).Leads (fun _ _ => True) rested := .step _ leads_listening trivial trivial
  constructor
  · have hending : ((Hub.refresh 1).run listening.hub).ending = .returned [.removed 1] := by
      decide +kernel
    obtain ⟨found, ending, hub, hfound, hhub, -, hawaits, -, hpending⟩ :=
      (next_events leads_listening hlistening (-1)).1 (by decide)
    obtain rfl : ending = .returned [.removed 1] := hhub.1.symm.trans hending
    exact ⟨found, hub, hfound, hhub, hawaits, hpending _ rfl⟩
  · obtain ⟨polls, ending, clock, hawaits, hothers, -⟩ := (next_events hleads hrested 0).2 rfl
    exact ⟨polls, ending, clock, hawaits, hothers⟩

end Tableau

end Hotplug
