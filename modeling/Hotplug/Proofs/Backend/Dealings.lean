import Hotplug.Proofs.Backend.Descriptors
import Hotplug.Proofs.Hub.Transfers
/-!
# Dealings with devices in memory

Every call of devices in memory begins in the same way: it is counted, and the fault that waits for its
operation is taken. If there is one, the call comes to nothing but a failure that names it. If there is
none, whatever failure the call ends in is its own, and has another text.

## Main definitions

* `Hotplug.Memory.Call`: the calls, each with the operation that it counts for.
* `Hotplug.Memory.Call.FailsBy`: a call fails by a fault.
* `Hotplug.Memory.Dealing`: a call, or anything else that is done to the devices.

## Main statements

* `Hotplug.Memory.Call.failsBy_iff`: a call fails by the fault that waits for it, and by no other.
* `Hotplug.Memory.Call.unharmed`: what such a call leaves behind.
* `Hotplug.Memory.Dealing.calls_after`, `Hotplug.Memory.Dealing.faults_after`: what becomes of the count
  and of the faults.
-/

namespace Hotplug

theorem Memory.ends_of_none {α : Type} {memory left : Memory} {operation : Operation}
    {rest : Unit → Action Memory α} {ending : Ending α}
    (h : memory.faults.get? operation = none)
    (hrest : (rest ()).Ends (memory.entered operation) ending left) :
    (enter operation >>= rest).Ends memory ending left :=
  .bind (enter_of_none h) hrest

namespace Memory

variable {memory : Memory} {channel : Channel}

/-! ### Reading -/

/-- Everything that reading can come to. -/
inductive ReadCase (channel : Channel) (room : Nat) (limit : Int) (memory : Memory) : Prop
  /-- A fault was waiting. -/
  | faulted (code : Code) (hfault : memory.faults.get? .read = some code)
    (hends : (read channel room limit).Ends memory (.failed (Fault.failure ⟨.read, code⟩))
      (memory.entered .read))
  /-- No input came until the limit ran out. -/
  | silent (clock : Nat) (hfault : memory.faults.get? .read = none)
    (hquiet : memory.isQuiet channel.host = true) (hlimit : 0 ≤ limit)
    (hends : (read channel room limit).Ends memory (.returned [])
      ((memory.entered .read).atTime clock))
  /-- No input came, and there was no limit. -/
  | endless (clock : Nat) (hfault : memory.faults.get? .read = none)
    (hquiet : memory.isQuiet channel.host = true) (hlimit : limit < 0)
    (hends : (read channel room limit).Ends memory .unending ((memory.entered .read).atTime clock))
  /-- There was input, and no room for it. -/
  | roomless (clock : Nat) (hfault : memory.faults.get? .read = none)
    (hready : memory.isQuiet channel.host = false) (hroom : room = 0)
    (hends : (read channel room limit).Ends memory (.failed (endOfInput channel.path))
      ((memory.entered .read).atTime clock))
  /-- There was input, and as much was taken as there was room for. -/
  | taken (clock : Nat) (hfault : memory.faults.get? .read = none)
    (hready : memory.isQuiet channel.host = false) (hroom : room ≠ 0)
    (hends : (read channel room limit).Ends memory
      (.returned (((memory.pipes.get? channel.id).map fun pipe => (pipe.inbox.receive room).1).getD []))
      { (memory.entered .read).atTime clock with
        pipes := memory.pipes.update channel.id fun pipe =>
          { pipe with inbox := (pipe.inbox.receive room).2 } })

theorem ends_readable (memory : Memory) (fd : Nat) (limit : Int) :
    ∃ clock, (native.readable (.fd fd) limit).Ends memory
      (if memory.isQuiet fd then if limit < 0 then .unending else .returned false
        else .returned true) (memory.atTime clock) := by
  have hkeeps : (native.readable (.fd fd) limit).Hoare (fun later => ∃ clock, later = memory.atTime clock)
      fun _ later => ∃ clock, later = memory.atTime clock := by
    refine hoare_readable (fun later clock h => ?_) _ _
    obtain ⟨before, rfl⟩ := h
    exact ⟨clock, rfl⟩
  obtain ⟨clock, hclock⟩ := hkeeps memory ⟨memory.clock, rfl⟩
  exact ⟨clock, readable_ending memory fd limit, hclock⟩

theorem read_cases (channel : Channel) (room : Nat) (limit : Int) (memory : Memory) :
    ReadCase channel room limit memory := by
  cases hfault : memory.faults.get? .read with
  | some code => exact .faulted code hfault (.bind_failed (enter_of_some hfault))
  | none =>
    obtain ⟨clock, hwaits⟩ := ends_readable (memory.entered .read) channel.host limit
    cases hquiet : memory.isQuiet channel.host with
    | true =>
      rw [show (memory.entered .read).isQuiet channel.host = true from hquiet, if_pos rfl] at hwaits
      by_cases hlimit : limit < 0
      · rw [if_pos hlimit] at hwaits
        exact .endless clock hfault hquiet hlimit (ends_of_none hfault hwaits.bind_unending)
      · rw [if_neg hlimit] at hwaits
        exact .silent clock hfault hquiet (Int.not_lt.1 hlimit)
          (ends_of_none hfault (hwaits.bind ⟨rfl, rfl⟩))
    | false =>
      rw [show (memory.entered .read).isQuiet channel.host = false from hquiet,
        if_neg Bool.false_ne_true] at hwaits
      by_cases hroom : room = 0
      · refine .roomless clock hfault hquiet hroom (ends_of_none hfault (hwaits.bind ?_))
        rw [if_pos rfl, if_pos hroom]
        exact ⟨rfl, rfl⟩
      · refine .taken clock hfault hquiet hroom (ends_of_none hfault (hwaits.bind ?_))
        rw [if_pos rfl, if_neg hroom]
        exact ⟨rfl, rfl⟩

/-! ### Writing -/

/-- What of the data finds no room on its way back. -/
def overflow (memory : Memory) (channel : Channel) (data : Bytes) : Bytes :=
  ((memory.pipes.get? channel.id).map fun pipe => (pipe.inbox.send data).2).getD []

def wrote (memory : Memory) (channel : Channel) (data : Bytes) : Memory :=
  { (memory.entered .write).alter channel.path fun kept =>
      { kept with written := kept.written ++ data } with
    pipes := memory.pipes.update channel.id fun pipe =>
      { pipe with inbox := (pipe.inbox.send data).1 } }

theorem write_of_none (h : memory.faults.get? .write = none) (channel : Channel) (data : Bytes) :
    (write channel data).Ends memory
      (if (memory.overflow channel data).isEmpty then .returned data.length
        else .failed (congested channel.path)) (memory.wrote channel data) := by
  refine ends_of_none h (.bind ⟨rfl, rfl⟩ ?_)
  change Action.Ends (if (memory.overflow channel data).isEmpty then _ else _) _ _ _
  split <;> exact ⟨rfl, rfl⟩

/-! ### Calls -/

/-- What devices in memory can be called for. -/
inductive Call
  | enumerate (filter : Filter)
  | subscribe
  | drain (subscriber : Subscriber)
  | open_ (info : Info)
  | read (channel : Channel) (room : Nat) (limit : Int)
  | write (channel : Channel) (data : Bytes)
  | configure (channel : Channel) (settings : Serial.Settings)
  | reportDescriptor (channel : Channel)
  | sendFeature (channel : Channel) (report : Bytes)
  | getFeature (channel : Channel) (number : UInt8) (buffer : Bytes)

namespace Call

abbrev Answer : Call → Type
  | enumerate _ => List Info
  | subscribe => Subscriber
  | drain _ => Drained
  | open_ _ => Channel
  | read .. | reportDescriptor _ => Bytes
  | write .. | sendFeature .. => Nat
  | configure .. => Unit
  | getFeature .. => Nat × Bytes

/-- The operation that the call counts for. -/
def operation : Call → Operation
  | enumerate _ => .enumerate
  | subscribe => .subscribe
  | drain _ => .drain
  | open_ _ => .openDevice
  | read .. => .read
  | write .. => .write
  | configure .. => .configureSerial
  | reportDescriptor _ => .reportDescriptor
  | sendFeature .. | getFeature .. => .featureReport

def action : (call : Call) → Action Memory call.Answer
  | enumerate filter => Memory.enumerate filter
  | subscribe => Memory.subscribe
  | drain subscriber => Memory.drain subscriber
  | open_ info => Memory.open_ info
  | read channel room limit => Memory.read channel room limit
  | write channel data => Memory.write channel data
  | configure channel settings => Memory.configure channel settings
  | reportDescriptor channel => Memory.reportDescriptor channel
  | sendFeature channel report => Memory.sendFeature channel report
  | getFeature channel number buffer => Memory.getFeature channel number buffer

/-- The memory after the call, however it ends. -/
def after (call : Call) (memory : Memory) : Memory :=
  (call.action.run memory).state

/-- The failure that an ending stands for. A delivery that is cut short answers with its failure. -/
def failure? : (call : Call) → Ending call.Answer → Option Failure
  | drain _, .returned drained => drained.failure
  | _, .failed failure => some failure
  | _, _ => none

/-- The call fails by a fault with a code. -/
def FailsBy (call : Call) (code : Code) (memory : Memory) : Prop :=
  call.failure? (call.action.run memory).ending = some (Fault.failure ⟨call.operation, code⟩)

theorem exists_operation (operation : Operation) : ∃ call : Call, call.operation = operation := by
  cases operation with
  | enumerate => exact ⟨.enumerate {}, rfl⟩
  | subscribe => exact ⟨.subscribe, rfl⟩
  | drain => exact ⟨.drain ⟨0, 0⟩, rfl⟩
  | openDevice => exact ⟨.open_ default, rfl⟩
  | read => exact ⟨.read ⟨0, "", 0⟩ 0 0, rfl⟩
  | write => exact ⟨.write ⟨0, "", 0⟩ [], rfl⟩
  | configureSerial => exact ⟨.configure ⟨0, "", 0⟩ {}, rfl⟩
  | reportDescriptor => exact ⟨.reportDescriptor ⟨0, "", 0⟩, rfl⟩
  | featureReport => exact ⟨.getFeature ⟨0, "", 0⟩ 0 [], rfl⟩

variable {call : Call} {code : Code}


/-- A call for which a fault waits fails by it, and does nothing else. -/
theorem fails_of_fault (h : memory.faults.get? call.operation = some code) :
    call.FailsBy code memory ∧ call.after memory = memory.entered call.operation := by
  have hbegins {α : Type} (rest : Unit → Action Memory α) :
      (enter call.operation >>= rest).Ends memory (.failed (Fault.failure ⟨call.operation, code⟩))
        (memory.entered call.operation) := .bind_failed (enter_of_some h)
  cases call with
  | drain subscriber =>
    obtain ⟨hending, hstate⟩ : (Memory.drain subscriber).Ends memory _ _ := drain_of_some h
    exact ⟨congrArg (failure? (.drain subscriber)) hending, hstate⟩
  | enumerate | subscribe | open_ | read | write | configure | reportDescriptor | sendFeature | getFeature =>
    exact ⟨congrArg (failure? _) (hbegins _).1, (hbegins _).2⟩

/-- A call that fails by a fault leaves everything as it is but the count and the fault. -/
theorem unharmed (h : memory.faults.get? call.operation = some code) :
    memory.Unharmed [call.operation] [] (call.after memory) :=
  (fails_of_fault h).2 ▸ unharmed_entered memory call.operation

/-- A failure has a text that no fault gives. -/
def Own (failure : Failure) : Prop :=
  failure.message.toList.head? ≠ some 'm' ∨ failure.message.toList.getLast? ≠ some 'e'

theorem Own.ne_failure {failure : Failure} (h : Own failure) (fault : Fault) :
    failure ≠ fault.failure := by
  -- The text of a fault begins with "mock" and ends with "failure".
  rintro rfl
  rcases h with hhead | hlast
  · exact hhead (by simp [Fault.failure])
  · refine hlast ?_
    rw [Fault.failure, String.toList_append, List.getLast?_append]
    rfl

theorem own_absent (path : String) : Own (absent path) :=
  .inr (by simp [absent, Failure.notFound])

theorem own_endOfInput (path : String) : Own (endOfInput path) :=
  .inl (by simp [endOfInput, Failure.io])

theorem own_noFeature (path : String) (number : UInt8) : Own (noFeature path number) :=
  .inl (by simp [noFeature, Failure.io])

theorem own_congested (path : String) : Own (congested path) := by
  have hcode : Errno.again.code = .system := rfl
  refine .inl ?_
  rw [congested, Failure.ofErrno, hcode]
  simp [Failure.system]

theorem own_of_ends (call : Call) {ending : Ending call.Answer} {left : Memory}
    (hends : call.action.Ends memory ending left)
    (h : ∀ failure, call.failure? ending = some failure → Own failure) {failure : Failure}
    (hfails : call.failure? (call.action.run memory).ending = some failure) : Own failure :=
  h failure (hends.1 ▸ hfails)

/-- A call for which no fault waits can only fail in a way of its own. -/
theorem own_of_none (h : memory.faults.get? call.operation = none) {failure : Failure}
    (hfails : call.failure? (call.action.run memory).ending = some failure) : Own failure := by
  -- Four calls can fail on their own: opening, reading, writing, and asking for a feature report.
  cases call with
  | enumerate filter =>
    exact own_of_ends (.enumerate filter) (ends_of_none h (.bind ⟨rfl, rfl⟩ ⟨rfl, rfl⟩)) nofun hfails
  | subscribe => exact own_of_ends .subscribe (ends_of_none h ⟨rfl, rfl⟩) nofun hfails
  | drain subscriber => exact own_of_ends (.drain subscriber) (drain_of_none h) nofun hfails
  | open_ info =>
    refine own_of_ends (.open_ info) (ends_of_none h (.bind ⟨rfl, rfl⟩ (Action.ends_run _ _))) ?_ hfails
    split
    · rintro _ ⟨⟩
      exact own_absent info.path
    · exact nofun
  | read channel room limit =>
    cases read_cases channel room limit memory with
    | faulted code hfault => exact absurd (hfault.symm.trans h) nofun
    | silent _ _ _ _ hends => exact own_of_ends (.read channel room limit) hends nofun hfails
    | endless _ _ _ _ hends => exact own_of_ends (.read channel room limit) hends nofun hfails
    | taken _ _ _ _ hends => exact own_of_ends (.read channel room limit) hends nofun hfails
    | roomless _ _ _ _ hends =>
      refine own_of_ends (.read channel room limit) hends ?_ hfails
      rintro _ ⟨⟩
      exact own_endOfInput channel.path
  | write channel data =>
    refine own_of_ends (.write channel data) (write_of_none h channel data) ?_ hfails
    split
    · exact nofun
    · rintro _ ⟨⟩
      exact own_congested channel.path
  | configure channel settings =>
    exact own_of_ends (.configure channel settings) (ends_of_none h ⟨rfl, rfl⟩) nofun hfails
  | reportDescriptor channel =>
    exact own_of_ends (.reportDescriptor channel) (ends_of_none h (.bind ⟨rfl, rfl⟩ ⟨rfl, rfl⟩)) nofun
      hfails
  | sendFeature channel report =>
    refine own_of_ends (.sendFeature channel report) (ends_of_none h (Action.ends_run _ _)) ?_ hfails
    cases report.head? <;> exact nofun
  | getFeature channel number buffer =>
    refine own_of_ends (.getFeature channel number buffer)
      (ends_of_none h (.bind ⟨rfl, rfl⟩ (Action.ends_run _ _))) ?_ hfails
    split
    · rintro _ ⟨⟩
      exact own_noFeature channel.path number
    · exact nofun

/-- A call fails by the fault that waits for it, and by no other. -/
theorem failsBy_iff : call.FailsBy code memory ↔ memory.faults.get? call.operation = some code := by
  refine ⟨fun hfails => ?_, fun h => (fails_of_fault h).1⟩
  cases hfault : memory.faults.get? call.operation with
  | none => exact absurd rfl ((own_of_none hfault hfails).ne_failure _)
  | some other =>
    have hother := (fails_of_fault hfault).1
    have hsame : Fault.failure ⟨call.operation, other⟩ = Fault.failure ⟨call.operation, code⟩ :=
      Option.some.inj (hother.symm.trans hfails)
    exact congrArg some (congrArg Failure.code hsame)

/-! ### The count -/

theorem counted_drain (subscriber : Subscriber) (memory : Memory) :
    memory.Counted .drain ((Memory.drain subscriber).run memory).state := by
  rcases drain_ends subscriber memory with hends | ⟨failure, hends⟩
  · exact hends.2 ▸ ⟨rfl, rfl⟩
  · exact hends.2 ▸ ⟨rfl, rfl⟩

/-- Every call is counted once, whether it fails or not. It takes the fault that waits for its
operation. -/
theorem counted (call : Call) (memory : Memory) : memory.Counted call.operation (call.after memory) := by
  cases call with
  | enumerate filter =>
    exact (show (Call.enumerate filter).after memory = _ from enumerate_state filter memory) ▸ ⟨rfl, rfl⟩
  | subscribe =>
    rcases memory.subscribe_cases with hends | ⟨failure, hends⟩
    · exact (show Call.subscribe.after memory = _ from hends.2) ▸ ⟨rfl, rfl⟩
    · exact (show Call.subscribe.after memory = _ from hends.2) ▸ ⟨rfl, rfl⟩
  | drain subscriber => exact counted_drain subscriber memory
  | open_ info =>
    rcases open_cases info memory with hends | ⟨failure, hends⟩
    · exact (show (Call.open_ info).after memory = _ from hends.2) ▸ ⟨rfl, rfl⟩
    · exact (show (Call.open_ info).after memory = _ from hends.2) ▸ ⟨rfl, rfl⟩
  | read channel room limit => exact counted_read channel room limit memory rfl
  | write channel data => exact counted_write channel data memory rfl
  | configure channel settings => exact counted_configure channel settings memory rfl
  | reportDescriptor channel => exact counted_reportDescriptor channel memory rfl
  | sendFeature channel report => exact counted_sendFeature channel report memory rfl
  | getFeature channel number buffer => exact counted_getFeature channel number buffer memory rfl

end Call

/-! ### Dealings -/

/-- A call, or anything else that is done to devices in memory. -/
inductive Dealing
  | call (request : Call)
  | unsubscribe (subscriber : Subscriber)
  | close (channel : Channel)
  | attach (info : Info)
  | plug (info : Info)
  | unplug (key : String)
  | inject (path : String) (data : Bytes)
  | setReportDescriptor (path : String) (descriptor : Bytes)
  | failNext (fault : Fault)
  /-- Time goes on. -/
  | elapse (clock : Nat)

namespace Dealing

def after : Dealing → Memory → Memory
  | call request, memory => request.after memory
  | unsubscribe subscriber, memory => memory.unsubscribe subscriber
  | close channel, memory => Memory.close channel memory
  | attach info, memory => memory.attach info
  | plug info, memory => memory.plug info
  | unplug key, memory => memory.unplug key
  | inject path data, memory => memory.inject path data
  | setReportDescriptor path descriptor, memory => memory.setReportDescriptor path descriptor
  | failNext fault, memory => memory.failNext fault
  | elapse clock, memory => memory.atTime clock

/-- The operation that is called, if any is. -/
def operation? : Dealing → Option Operation
  | call request => some request.operation
  | _ => none

/-- The memory after one thing after the other was done. -/
def afterAll (dealings : List Dealing) (memory : Memory) : Memory :=
  dealings.foldl (fun memory dealing => dealing.after memory) memory

theorem calls_after (dealing : Dealing) (memory : Memory) :
    (dealing.after memory).calls = memory.calls ++ dealing.operation?.toList := by
  cases dealing with
  | call request => exact (request.counted memory).calls
  | _ => exact (List.append_nil _).symm

/-- Unless a fault is asked for, the faults that wait are those whose operation is not called. -/
theorem faults_after {dealing : Dealing} (h : ∀ fault, dealing ≠ .failNext fault) (memory : Memory)
    (operation : Operation) :
    (dealing.after memory).faults.get? operation =
      if dealing.operation? = some operation then none else memory.faults.get? operation := by
  cases dealing with
  | call request =>
    change (request.after memory).faults.get? operation = _
    rw [(request.counted memory).faults, Table.get?_erase]
    simp only [operation?, Option.some.injEq, eq_comm]
  | failNext fault => exact absurd rfl (h fault)
  | _ => rfl

end Dealing

end Memory

end Hotplug
