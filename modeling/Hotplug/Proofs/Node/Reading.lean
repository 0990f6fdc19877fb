import Hotplug.Proofs.Node.Exchanges
/-!
# Silence and hang-ups

A read of a device node waits for input and then reads. Both calls may be cut short any number of times.
What comes of it depends on the last call only, and nothing that was read is lost on the way: a read
that delivers is the last call. Only a read that does not wait takes the end of input for silence.

## Main definitions

* `Hotplug.Node.Told`: what a read tells of its exchanges with the kernel.

## Main statements

* `Hotplug.Node.read_tells`: what every read tells.
* `Hotplug.Node.read_hung_up_at_once`: a read that does not wait is silent about a hang-up.
-/

namespace Hotplug.Node

open Kernel

variable {node : Node} {kernel middle later : Kernel} {length : Nat} {limit : Int}

/-- What a read makes of the last answer, after a wait or at once. -/
inductive Heard (node : Node) (limit : Int) : Except Errno Bytes → Ending Bytes → Prop
  | bytes {data : Bytes} (hdata : data ≠ []) : Heard node limit (.ok data) (.returned data)
  | endAtOnce (hlimit : limit = 0) : Heard node limit (.ok []) (.returned [])
  | endAfterWait (hlimit : limit ≠ 0) : Heard node limit (.ok []) (.failed node.hungUp)
  | again : Heard node limit (.error .again) (.returned [])
  | refused {errno : Errno} (herrno : errno ≠ .again) :
    Heard node limit (.error errno) (.failed (node.readFailure errno))

theorem readNow_ends (node : Node) (hlength : length ≠ 0) (limit : Int) (kernel : Kernel) :
    ∃ cuts answer ending later, (node.readNow length (limit ≠ 0)).Ends kernel ending later ∧
      node.Heard limit answer ending ∧ answer ≠ .error .interrupted ∧
      kernel.Talk node.fd
        (List.replicate cuts (.read length (.error .interrupted)) ++ [.read length answer]) later := by
  obtain ⟨cuts, answer, later, hends, hanswer, htalk⟩ :=
    (restarts_read node.fd length).restarting kernel
  suffices hheard : ∃ ending, (node.readNow length (limit ≠ 0)).Ends kernel ending later ∧
      node.Heard limit answer ending by
    obtain ⟨ending, hread, hheard⟩ := hheard
    exact ⟨cuts, answer, ending, later, hread, hheard, hanswer, htalk⟩
  cases answer with
  | ok data =>
    by_cases hdata : data = []
    · subst hdata
      by_cases hlimit : limit = 0
      · refine ⟨_, hends.bind ?_, .endAtOnce hlimit⟩
        simp only [hlimit]
        exact ⟨rfl, rfl⟩
      · refine ⟨_, hends.bind ?_, .endAfterWait hlimit⟩
        simp only [List.isEmpty_nil, hlimit, ne_eq, not_false_eq_true, decide_true, hlength, and_self,
          if_true]
        exact ⟨rfl, rfl⟩
    · refine ⟨_, hends.bind ?_, .bytes hdata⟩
      simp only [List.isEmpty_iff, hdata, false_and, if_false]
      exact ⟨rfl, rfl⟩
  | error errno =>
    by_cases herrno : errno = .again
    · subst herrno
      exact ⟨_, hends.bind ⟨rfl, rfl⟩, .again⟩
    · refine ⟨_, hends.bind ?_, .refused herrno⟩
      simp only [if_neg herrno]
      exact ⟨rfl, rfl⟩

theorem readFailure_eq (node : Node) (errno : Errno) :
    ∃ message, node.readFailure errno =
      if errno = .ioError ∨ errno = .noSuchDevice then .io message else .system message := by
  simp only [readFailure, Errno.isTransferError, decide_eq_true_eq]
  split
  · exact ⟨_, rfl⟩
  · exact ⟨_, rfl⟩

namespace Heard

variable {answer : Except Errno Bytes} {ending : Ending Bytes} {data : Bytes}

theorem bytes_iff (h : node.Heard limit answer ending) (hdata : data ≠ []) :
    ending = .returned data ↔ answer = .ok data := by
  cases h with
  | bytes => simp
  | endAtOnce | endAfterWait | again | refused => simp [hdata.symm]

theorem silence (h : node.Heard limit answer ending) (hnothing : ending = .returned []) :
    answer = .error .again ∨ limit = 0 ∧ answer = .ok [] := by
  cases h with
  | bytes hdata => exact absurd (Ending.returned.inj hnothing) hdata
  | endAtOnce hlimit => exact .inr ⟨hlimit, rfl⟩
  | again => exact .inl rfl
  | endAfterWait | refused => cases hnothing

theorem hungUp (h : node.Heard limit (.ok []) ending) (hlimit : limit ≠ 0) :
    ∃ message, ending = .failed (.io message) := by
  cases h with
  | bytes hdata => exact absurd rfl hdata
  | endAtOnce hzero => exact absurd hzero hlimit
  | endAfterWait => exact ⟨_, rfl⟩

theorem refusal {errno : Errno} (h : node.Heard limit (.error errno) ending) (hagain : errno ≠ .again) :
    ∃ message, ending =
      .failed (if errno = .ioError ∨ errno = .noSuchDevice then .io message else .system message) := by
  cases h with
  | again => exact absurd rfl hagain
  | refused =>
    obtain ⟨message, hmessage⟩ := node.readFailure_eq errno
    exact ⟨message, congrArg Ending.failed hmessage⟩

theorem failed {failure : Failure} (h : node.Heard limit answer ending)
    (hfailed : ending = .failed failure) :
    limit ≠ 0 ∧ answer = .ok [] ∨ ∃ errno, errno ≠ .again ∧ answer = .error errno := by
  cases h with
  | endAfterWait hlimit => exact .inl ⟨hlimit, rfl⟩
  | refused herrno => exact .inr ⟨_, herrno, rfl⟩
  | bytes | endAtOnce | again => cases hfailed

end Heard

/-- What a read of a node tells of its exchanges with the kernel, of which `last` was the last one. -/
structure Told (node : Node) (length : Nat) (limit : Int) (kernel : Kernel)
    (before : List Exchange) (last : Exchange) (ending : Ending Bytes) (later : Kernel) : Prop where
  talk : kernel.Talk node.fd (before ++ [last]) later
  ends : ending ≠ .unending
  /-- Reads before the last call were cut short, so they took no input. -/
  cut : ∀ room answer, .read room answer ∈ before → answer = .error .interrupted
  room : ∀ room answer, .read room answer ∈ before ++ [last] → room = length
  /-- Bytes are what the last call read, and what the last call read is not lost. -/
  bytes : ∀ data, data ≠ [] → (ending = .returned data ↔ last = .read length (.ok data))
  /-- Without bytes the time was up or a read would have had to wait. A kernel that answers a wait with
  events that nobody asked for is taken for silent, and so is the end of input if there was no wait. -/
  silence : ending = .returned [] →
    (0 < limit ∧ kernel.clock + limit.toNat * Deadline.perMilli ≤ later.clock ∧
      ∀ exchange ∈ before ++ [last], ∃ bound answer, exchange = .poll pollIn bound answer ∧
        Fruitless answer) ∨
    last = .read length (.error .again) ∨
    (∃ bound events, last = .poll pollIn bound (.ok events) ∧ events &&& readyMask pollIn = 0 ∧
      events ≠ 0) ∨
    limit = 0 ∧ last = .read length (.ok [])
  /-- The end of input after a wait is a hang-up. -/
  hungUp : last = .read length (.ok []) → limit ≠ 0 →
    ∃ message, ending = .failed (.io message)
  /-- A read that fails says why. -/
  refused : ∀ errno, last = .read length (.error errno) → errno ≠ .again →
    ∃ message, ending =
      .failed (if errno = .ioError ∨ errno = .noSuchDevice then .io message else .system message)
  /-- A wait that fails says why. -/
  waitRefused : ∀ bound errno, last = .poll pollIn bound (.error errno) → errno ≠ .interrupted →
    ending = .failed (pollFailure errno)
  /-- There is no other failure. -/
  failed : ∀ failure, ending = .failed failure →
    limit ≠ 0 ∧ last = .read length (.ok []) ∨
    (∃ errno, errno ≠ .again ∧ last = .read length (.error errno)) ∨
    ∃ bound errno, errno ≠ .interrupted ∧ last = .poll pollIn bound (.error errno)

/-- Reads after waits that came to something, or after none. -/
theorem told_reads {waits : List Exchange} {answer : Except Errno Bytes} {ending : Ending Bytes}
    {cuts : Nat} (hwaits : ∀ wait ∈ waits, ∃ bound answer, wait = .poll pollIn bound answer)
    (hbefore : kernel.Talk node.fd waits middle)
    (hreads : middle.Talk node.fd
      (List.replicate cuts (.read length (.error .interrupted)) ++ [.read length answer]) later)
    (hheard : node.Heard limit answer ending) :
    node.Told length limit kernel (waits ++ List.replicate cuts (.read length (.error .interrupted)))
      (.read length answer) ending later := by
  -- No wait is a read.
  have hcut (room : Nat) (other : Except Errno Bytes)
      (hmem : .read room other ∈ waits ++ List.replicate cuts (.read length (.error .interrupted))) :
      room = length ∧ other = .error .interrupted := by
    rcases List.mem_append.1 hmem with hmem | hmem
    · obtain ⟨bound, found, heq⟩ := hwaits _ hmem
      cases heq
    · cases (List.mem_replicate.1 hmem).2
      exact ⟨rfl, rfl⟩
  exact {
    talk := by
      rw [List.append_assoc]
      exact hbefore.append hreads
    ends := by cases hheard <;> nofun
    cut := fun room other hmem => (hcut room other hmem).2
    room := fun room other hmem => by
      rcases List.mem_append.1 hmem with hmem | hmem
      · exact (hcut room other hmem).1
      · cases List.mem_singleton.1 hmem
        rfl
    bytes := fun data hdata => by
      rw [hheard.bytes_iff hdata, Exchange.read.injEq]
      exact ⟨fun h => ⟨rfl, h⟩, And.right⟩
    silence := fun hnothing => by
      rcases hheard.silence hnothing with rfl | ⟨hlimit, rfl⟩
      · exact .inr (.inl rfl)
      · exact .inr (.inr (.inr ⟨hlimit, rfl⟩))
    hungUp := fun heq hlimit => by
      cases heq
      exact hheard.hungUp hlimit
    refused := fun errno heq hagain => by
      cases heq
      exact hheard.refusal hagain
    waitRefused := fun bound errno heq => by cases heq
    failed := fun failure hfailed => by
      rcases hheard.failed hfailed with ⟨hlimit, rfl⟩ | ⟨errno, herrno, rfl⟩
      · exact .inl ⟨hlimit, rfl⟩
      · exact .inr (.inl ⟨errno, herrno, rfl⟩) }

/-- A wait that does not lead to a read. -/
theorem told_waits {waits : List Exchange} {last : Exchange} {answer : Except Errno Nat}
    {ending : Ending Bytes} (hlimit : limit ≠ 0)
    (hwaits : ∀ wait ∈ waits, ∃ answer, Fruitless answer ∧
      Asks pollIn (.ofLimit limit kernel.clock) answer wait)
    (hlast : Asks pollIn (.ofLimit limit kernel.clock) answer last)
    (htalk : kernel.Talk node.fd (waits ++ [last]) later)
    (hconcludes : Concludes pollIn (.ofLimit limit kernel.clock) [] (fun _ => []) later.clock answer
      ending)
    (hunasked : ∀ events, answer = .ok events → events &&& readyMask pollIn = 0) :
    node.Told length limit kernel waits last ending later := by
  obtain ⟨bound, rfl, -⟩ := hlast
  have hpoll (room : Nat) (other : Except Errno Bytes) : .read room other ∉ waits := by
    intro hmem
    obtain ⟨answer, -, bound, heq, -⟩ := hwaits _ hmem
    cases heq
  exact {
    talk := htalk
    ends := by cases hconcludes <;> nofun
    cut := fun room other hmem => absurd hmem (hpoll room other)
    room := fun room other hmem => by
      rcases List.mem_append.1 hmem with hmem | hmem
      · exact absurd hmem (hpoll room other)
      · cases List.mem_singleton.1 hmem
    bytes := fun data hdata => by cases hconcludes <;> simp [hdata.symm]
    silence := fun hnothing => by
      cases hconcludes with
      | expired hfruitless hpast =>
        obtain ⟨hfinite, hpast⟩ := Deadline.isPast_ofLimit.1 hpast
        refine .inl ⟨by omega, hpast, fun exchange hmem => ?_⟩
        rcases List.mem_append.1 hmem with hmem | hmem
        · obtain ⟨answer, hfruitless, bound, heq, -⟩ := hwaits _ hmem
          exact ⟨bound, answer, heq, hfruitless⟩
        · exact ⟨bound, answer, List.mem_singleton.1 hmem, hfruitless⟩
      | @found events hevents =>
        exact .inr (.inr (.inl ⟨bound, events, rfl, hunasked events rfl, hevents⟩))
      | refused => cases hnothing
    hungUp := fun heq => by cases heq
    refused := fun errno heq => by cases heq
    waitRefused := fun bound errno heq herrno => by
      cases heq
      cases hconcludes with
      | expired hfruitless =>
        rcases hfruitless with heq | heq
        · cases heq
          exact absurd rfl herrno
        · cases heq
      | refused => rfl
    failed := fun failure hfailed => by
      cases hconcludes with
      | expired | found => cases hfailed
      | @refused errno herrno => exact .inr (.inr ⟨bound, errno, herrno, rfl⟩) }

/-- A read ends and tells what it was told, or waits for what never comes. -/
theorem read_cases (node : Node) (kernel : Kernel) (hlength : length ≠ 0) (limit : Int) :
    (∃ later, (node.read length limit).Ends kernel .unending later ∧
        kernel.endpoint? node.fd ≠ some .scripted) ∨
      ∃ before last ending later, (node.read length limit).Ends kernel ending later ∧
        node.Told length limit kernel before last ending later := by
  by_cases hlimit : limit = 0
  · obtain ⟨cuts, answer, ending, later, hends, hheard, -, htalk⟩ :=
      node.readNow_ends hlength limit kernel
    simp only [Node.read, if_pos hlimit]
    simp only [hlimit, ne_eq, not_true_eq_false, decide_false] at hends
    exact .inr ⟨_, _, ending, later, hends, told_reads (by simp) (.refl kernel) htalk hheard⟩
  simp only [Node.read, if_neg hlimit]
  rcases readable_cases kernel node.fd limit with ⟨later, hready, hother⟩ |
    ⟨ready, middle, hready, waits, last, answer, hwaits, hlast, htalk, hconcludes⟩
  · exact .inl ⟨later, hready.bind_unending, hother⟩
  cases hconcludes with
  | expired hfruitless hpast =>
    refine .inr ⟨waits, last, .returned [], middle, hready.bind ⟨rfl, rfl⟩,
      told_waits hlimit hwaits hlast htalk (.expired hfruitless hpast) ?_⟩
    rintro events rfl
    rcases hfruitless with heq | heq <;> cases heq
    rfl
  | @found events hevents =>
    by_cases hasked : events &&& readyMask pollIn = 0
    · rw [if_neg (not_not_intro hasked)] at hready
      refine .inr ⟨waits, last, .returned [], middle, hready.bind ⟨rfl, rfl⟩,
        told_waits hlimit hwaits hlast htalk (.found hevents) ?_⟩
      rintro _ ⟨⟩
      exact hasked
    · rw [if_pos hasked] at hready
      obtain ⟨cuts, answer, ending, later, hends, hheard, -, hreads⟩ :=
        node.readNow_ends hlength limit middle
      simp only [hlimit, ne_eq, not_false_eq_true, decide_true] at hends
      refine .inr ⟨_, _, ending, later, hready.bind hends, told_reads ?_ htalk hreads hheard⟩
      intro wait hmem
      rcases List.mem_append.1 hmem with hmem | hmem
      · obtain ⟨answer, -, bound, heq, -⟩ := hwaits _ hmem
        exact ⟨bound, answer, heq⟩
      · obtain ⟨bound, heq, -⟩ := hlast
        exact ⟨bound, _, (List.mem_singleton.1 hmem).trans heq⟩
  | @refused errno herrno =>
    exact .inr ⟨waits, last, _, middle, hready.bind_failed,
      told_waits hlimit hwaits hlast htalk (.refused herrno) (by simp)⟩

/-- A read with room for a byte ends if the answers are given beforehand. Whenever it ends, what it
answers is what the kernel told: only a read that does not wait takes the end of input for silence. -/
theorem read_tells (node : Node) (kernel : Kernel) {length : Nat} (hlength : length ≠ 0) (limit : Int) :
    let out := (node.read length limit).run kernel
    (kernel.endpoint? node.fd = some .scripted → out.ending ≠ .unending) ∧
      (out.ending ≠ .unending → ∃ before last,
        node.Told length limit kernel before last out.ending out.state ∧
          (kernel.endpoint? node.fd = some .scripted →
            kernel.ScriptedTalk (before ++ [last]) out.state)) := by
  intro out
  rcases node.read_cases kernel hlength limit with ⟨later, hends, hother⟩ |
    ⟨before, last, ending, later, hends, htold⟩
  · exact ⟨fun hscripted => absurd hscripted hother, fun hne => absurd hends.1 hne⟩
  · obtain ⟨rfl, rfl⟩ := hends
    exact ⟨fun _ => htold.ends, fun _ => ⟨before, last, htold, htold.talk.scripted⟩⟩

/-- A node whose reads and waits are cut short, and whose first wait comes back early. -/
def troubled : Kernel where
  endpoints := [(3, .scripted)]
  script :=
    { polls := [.ok 0, .error .interrupted, .ok pollIn]
      pauses := [400000, 900000, 1000]
      reads := [.error .interrupted, .error .interrupted, .ok [0x41, 0x42, 0x43]] }

/-- With more time the third wait comes to something, and the third read delivers. A millisecond is over
after the second wait. -/
theorem read_tells_troubled :
    let node : Node := ⟨"/dev/hidraw0", 3⟩
    let patient := (node.read 2 50).run troubled
    let hasty := (node.read 2 1).run troubled
    (patient.ending = .returned [0x41, 0x42] ∧ ∃ before,
        node.Told 2 50 troubled before (.read 2 (.ok [0x41, 0x42])) patient.ending patient.state) ∧
      hasty.ending = .returned [] ∧
        ∃ before last, node.Told 2 1 troubled before last hasty.ending hasty.state := by
  intro node patient hasty
  have hpatient : patient.ending = .returned [0x41, 0x42] := by decide +kernel
  have hhasty : hasty.ending = .returned [] := by decide +kernel
  obtain ⟨before, last, htold, -⟩ := (node.read_tells troubled (by decide : 2 ≠ 0) 50).2
    (by rw [hpatient]; nofun)
  obtain rfl := (htold.bytes [0x41, 0x42] nofun).1 hpatient
  obtain ⟨earlier, final, hsilent, -⟩ := (node.read_tells troubled (by decide : 2 ≠ 0) 1).2
    (by rw [hhasty]; nofun)
  exact ⟨⟨hpatient, before, htold⟩, hhasty, earlier, final, hsilent⟩

/-- The other end is gone. A read that waits for a while says so; one that does not wait answers as if
there were nothing to read yet. -/
theorem read_hung_up_at_once :
    let node : Node := ⟨"/dev/ttyACM0", 3⟩
    let kernel : Kernel :=
      { endpoints := [(3, .scripted)], script := { polls := [.ok pollIn], reads := [.ok []] } }
    ((node.read 8 1).run kernel).ending = .failed node.hungUp ∧
      ((node.read 8 0).run kernel).ending = .returned [] ∧
      kernel.Talk node.fd [.read 8 (.ok [])] ((node.read 8 0).run kernel).state :=
  ⟨rfl, rfl, (Answers.read ⟨rfl, rfl⟩).talk⟩

end Hotplug.Node
