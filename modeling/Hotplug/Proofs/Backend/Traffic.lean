import Hotplug.Proofs.Backend.Memory
import Hotplug.Proofs.Hub.Scene
import Hotplug.Proofs.Simulation
import Hotplug.Proofs.Table
/-!
# What is done to devices in memory

Mailboxes and pipes have names that are given in ascending order. Only subscribers and open channels
bring new ones. Whatever else is done to the devices, be it from outside or in a transfer, leaves the
names as they are, and takes no announcement out of a mailbox.

## Main definitions

* `Hotplug.Memory.Fresh`: no mailbox and no pipe has a name that is still to be given.
* `Hotplug.Memory.pending`: the announcements that wait in a mailbox.
* `Hotplug.Memory.Touch`: what is done to the devices from outside and in transfers.
* `Hotplug.Memory.Publishes`: what a touch announces.
* `Hotplug.Memory.Stays`: mailboxes and open descriptors stay as they are.
* `Hotplug.Memory.Grows`: the names stay as they are, and no announcement is lost.

## Main statements

* `Hotplug.Memory.readable_state`: waiting takes time, and nothing else.
* `Hotplug.Memory.Publishes.eq_announce`, `Hotplug.Memory.Publishes.stays`: what is announced goes into
  every mailbox, and what is not leaves mailboxes and descriptors alone.
* `Hotplug.Memory.Touch.grows`
* `Hotplug.Memory.frame_fresh`: no operation of the platform gives a name twice.
-/

namespace Hotplug.Memory

/-- No mailbox and no pipe has a name that is still to be given. -/
structure Fresh (memory : Memory) : Prop where
  mailboxes : ∀ name, memory.next ≤ name → memory.mailboxes.get? name = none
  pipes : ∀ name, memory.next ≤ name → memory.pipes.get? name = none

/-- The announcements that wait in a mailbox, oldest first. -/
def pending (memory : Memory) (name : Nat) : List Notice :=
  ((memory.mailboxes.get? name).map Mailbox.queue).getD []

/-! ### Waiting -/

/-- The memory at another time. -/
def atTime (memory : Memory) (clock : Nat) : Memory :=
  { memory with clock }

/-- A call takes time, and nothing else. -/
theorem call_state (objects : List Waitable) (limit : Int) (memory : Memory) :
    ∃ clock, ((native.call objects limit).run memory).state = memory.atTime clock := by
  have hkeeps : (native.call objects limit).Hoare (fun later => ∃ clock, later = memory.atTime clock)
      fun _ later => ∃ clock, later = memory.atTime clock := by
    refine .bind_keep ?_ fun fds => .bind_keep (.get fun _ h => h) fun now => ?_
    · cases Waitable.descriptors objects with
      | ok fds => exact .pure fun _ h => h
      | error failure => exact .fail fun _ h => h
    · split
      · split
        · exact .wait fun _ h => h
        · refine .bind_keep (.modify fun later h => ?_) fun _ => .pure fun _ h => h
          obtain ⟨clock, rfl⟩ := h
          exact ⟨_, rfl⟩
      · exact .pure fun _ h => h
  exact hkeeps memory ⟨memory.clock, rfl⟩

/-- Waiting for descriptors of a memory of which only the clock goes on. -/
def watchful (memory : Memory) : Primitive Nat where
  limit := none
  now := fun clock => (clock, clock)
  sleep := fun ms clock => clock + ms * Deadline.perMilli
  call := fun objects limit clock =>
    let out := (native.call objects limit).run (memory.atTime clock)
    ⟨out.ending, out.state.clock, out.reports⟩
  patience := fun limit _ => limit.toNat + 2

theorem mirrors_watchful (memory : Memory) :
    Primitive.Mirrors memory.atTime memory.watchful native.toPrimitive where
  limit := rfl
  now _ := ⟨rfl, rfl⟩
  ask chunk limit clock := by
    let out := (native.call chunk.objects limit).run (memory.atTime clock)
    obtain ⟨later, hlater⟩ := call_state chunk.objects limit (memory.atTime clock)
    have hstate : out.state = memory.atTime out.state.clock := by
      rw [hlater]
      rfl
    exact congrArg (Outcome.mk out.ending · out.reports) hstate.symm
  patience _ _ := rfl

theorem waitAll_state (objects : List Waitable) (limit slice : Int) (memory : Memory) :
    ∃ clock, ((native.waitAll objects limit slice).run memory).state = memory.atTime clock := by
  have hmirrors := (mirrors_watchful memory).waitAll objects limit slice memory.clock
  exact ⟨_, (congrArg Outcome.state hmirrors).symm⟩

/-- What holds of a memory whatever the time is, still holds after waiting for input. -/
theorem hoare_readable {property : Memory → Prop}
    (htime : ∀ memory clock, property memory → property (memory.atTime clock)) (target : Waitable)
    (limit : Int) : (native.readable target limit).Hoare property fun _ => property := by
  unfold NativeWait.readable
  split
  · exact .fail fun _ h => h
  · refine .bind_keep (fun memory h => ?_) fun _ => .pure fun _ h => h
    obtain ⟨clock, hclock⟩ := waitAll_state [target] limit standardSlice memory
    exact hclock ▸ htime memory clock h

/-! ### Growing -/

/-- The later memory has the same names of mailboxes and pipes, and no announcement is lost. -/
structure Grows (memory later : Memory) : Prop where
  next : later.next = memory.next
  mailboxes : ∀ name, memory.mailboxes.get? name = none → later.mailboxes.get? name = none
  pipes : ∀ name, memory.pipes.get? name = none → later.pipes.get? name = none
  pending : ∀ name, memory.pending name <+: later.pending name

variable {memory later : Memory}

theorem Grows.trans {latest : Memory} (h : memory.Grows later) (h' : later.Grows latest) :
    memory.Grows latest :=
  ⟨h'.next.trans h.next, fun name hnone => h'.mailboxes name (h.mailboxes name hnone),
    fun name hnone => h'.pipes name (h.pipes name hnone),
    fun name => (h.pending name).trans (h'.pending name)⟩

theorem Grows.fresh (h : memory.Grows later) (hfresh : memory.Fresh) : later.Fresh := by
  refine ⟨fun name hname => ?_, fun name hname => ?_⟩
  · exact h.mailboxes name (hfresh.mailboxes name (h.next ▸ hname))
  · exact h.pipes name (hfresh.pipes name (h.next ▸ hname))

theorem grows_announce (memory : Memory) (notice : Notice) : memory.Grows (memory.announce notice) := by
  refine ⟨rfl, fun name hnone => ?_, fun _ h => h, fun name => ?_⟩
  · rw [get?_announce, hnone]
    rfl
  · rw [pending, pending, get?_announce]
    cases memory.mailboxes.get? name with
    | none => exact List.prefix_rfl
    | some box => exact List.prefix_append box.queue [notice]

/-- What the beginning of a call leaves alone. -/
theorem hoare_enter {property : Memory → Prop} (operation : Operation)
    (h : ∀ memory, property memory → property (memory.entered operation)) :
    (enter operation).Hoare property fun _ => property := by
  refine .bind_keep (.modifyGet h) fun fault => ?_
  cases fault with
  | none => exact .pure fun _ h => h
  | some code => exact .fail fun _ h => h

/-! ### What is not announced -/

/-- The descriptors of a pipe. -/
def pipeEnds (pipe : Pipe) : Nat × Nat :=
  (pipe.host, pipe.device)

/-- The descriptors of the pipes, with the names of the pipes. -/
def ends (memory : Memory) : List (Nat × Nat × Nat) :=
  memory.pipes.view pipeEnds

/-- Mailboxes and open descriptors are as they were. What is kept of the devices, what travels in the
pipes and the time may differ. -/
structure Stays (memory later : Memory) : Prop where
  next : later.next = memory.next
  mailboxes : later.mailboxes = memory.mailboxes
  lingering : later.lingering = memory.lingering
  ends : later.ends = memory.ends

theorem Stays.refl (memory : Memory) : memory.Stays memory :=
  ⟨rfl, rfl, rfl, rfl⟩

theorem Stays.grows (h : memory.Stays later) : memory.Grows later := by
  refine ⟨h.next, fun name hnone => h.mailboxes ▸ hnone, fun name hnone => ?_, fun name => ?_⟩
  · have hkeys : later.pipes.keys = memory.pipes.keys := Table.keys_congr h.ends
    rw [Table.get?_eq_none_iff] at hnone ⊢
    exact hkeys ▸ hnone
  · have hpending : later.pending name = memory.pending name := by rw [pending, h.mailboxes, pending]
    exact hpending ▸ List.prefix_rfl

/-- What travels in a pipe is no matter of its descriptors. -/
theorem ends_update (memory : Memory) (name : Nat) (f : Pipe → Conduit) :
    ({ memory with
      pipes := memory.pipes.update name fun pipe => { pipe with inbox := f pipe } } : Memory).ends =
        memory.ends :=
  Table.view_update memory.pipes name fun _ => rfl

theorem stays_enter (operation : Operation) :
    (enter operation).Hoare memory.Stays fun _ => memory.Stays :=
  hoare_enter operation fun _ h => ⟨h.next, h.mailboxes, h.lingering, h.ends⟩

theorem stays_read (channel : Channel) (room : Nat) (limit : Int) :
    (read channel room limit).Hoare memory.Stays fun _ => memory.Stays := by
  refine .bind_keep (stays_enter .read) fun _ => .bind_keep (hoare_readable ?_ _ _) fun ready => ?_
  · exact fun later clock h => ⟨h.next, h.mailboxes, h.lingering, h.ends⟩
  · split
    · split
      · exact .fail fun _ h => h
      · exact .modifyGet fun later h =>
          ⟨h.next, h.mailboxes, h.lingering, (ends_update later _ _).trans h.ends⟩
    · exact .pure fun _ h => h

theorem stays_write (channel : Channel) (data : Bytes) :
    (write channel data).Hoare memory.Stays fun _ => memory.Stays := by
  refine .bind_keep (stays_enter .write) fun _ => .bind_keep (.modifyGet fun later h => ?_)
    fun left => ?_
  · exact ⟨h.next, h.mailboxes, h.lingering, (ends_update later _ _).trans h.ends⟩
  · split
    · exact .pure fun _ h => h
    · exact .fail fun _ h => h

theorem stays_configure (channel : Channel) (settings : Serial.Settings) :
    (configure channel settings).Hoare memory.Stays fun _ => memory.Stays :=
  .bind_keep (stays_enter .configureSerial) fun _ =>
    .modify fun _ h => ⟨h.next, h.mailboxes, h.lingering, h.ends⟩

theorem stays_reportDescriptor (channel : Channel) :
    (reportDescriptor channel).Hoare memory.Stays fun _ => memory.Stays :=
  .bind_keep (stays_enter .reportDescriptor) fun _ => .bind_keep (.get fun _ h => h) fun _ =>
    .pure fun _ h => h

theorem stays_sendFeature (channel : Channel) (report : Bytes) :
    (sendFeature channel report).Hoare memory.Stays fun _ => memory.Stays := by
  refine .bind_keep (stays_enter .featureReport) fun _ => ?_
  split
  · exact .pure fun _ h => h
  · exact .bind_keep (.modify fun _ h => ⟨h.next, h.mailboxes, h.lingering, h.ends⟩) fun _ =>
      .pure fun _ h => h

theorem stays_getFeature (channel : Channel) (number : UInt8) (buffer : Bytes) :
    (getFeature channel number buffer).Hoare memory.Stays fun _ => memory.Stays := by
  refine .bind_keep (stays_enter .featureReport) fun _ => .bind_keep (.get fun _ h => h) fun now => ?_
  split
  · exact .fail fun _ h => h
  · exact .pure fun _ h => h

/-- What is done to devices in memory from outside, in transfers on open channels, and by time. -/
inductive Touch : (Memory → Memory) → Prop
  | attach (info : Info) : Touch (·.attach info)
  | plug (info : Info) : Touch (·.plug info)
  | unplug (key : String) : Touch (·.unplug key)
  | inject (path : String) (data : Bytes) : Touch (·.inject path data)
  | setReportDescriptor (path : String) (descriptor : Bytes) :
    Touch (·.setReportDescriptor path descriptor)
  | failNext (fault : Fault) : Touch (·.failNext fault)
  /-- Time goes on, be it while someone waits for descriptors. -/
  | elapse (clock : Nat) : Touch (·.atTime clock)
  | read (channel : Channel) (room : Nat) (limit : Int) :
    Touch fun memory => ((Memory.read channel room limit).run memory).state
  | write (channel : Channel) (data : Bytes) :
    Touch fun memory => ((Memory.write channel data).run memory).state
  | configure (channel : Channel) (settings : Serial.Settings) :
    Touch fun memory => ((Memory.configure channel settings).run memory).state
  | reportDescriptor (channel : Channel) :
    Touch fun memory => ((Memory.reportDescriptor channel).run memory).state
  | sendFeature (channel : Channel) (report : Bytes) :
    Touch fun memory => ((Memory.sendFeature channel report).run memory).state
  | getFeature (channel : Channel) (number : UInt8) (buffer : Bytes) :
    Touch fun memory => ((Memory.getFeature channel number buffer).run memory).state

/-- What a touch announces: plugging in and plugging out say so, and nothing else does. -/
inductive Publishes : (Memory → Memory) → Option Notice → Prop
  | plug (info : Info) : Publishes (·.plug info) (some (.added info))
  | unplug (key : String) : Publishes (·.unplug key) (some (.removed key))
  | nothing {change : Memory → Memory} (h : Touch change) (hplug : ∀ info, change ≠ (·.plug info))
    (hunplug : ∀ key, change ≠ (·.unplug key)) : Publishes change none

theorem Touch.publishes {change : Memory → Memory} (h : Touch change) :
    ∃ notice, Publishes change notice := by
  by_cases hplug : ∃ info, change = (·.plug info)
  · obtain ⟨info, rfl⟩ := hplug
    exact ⟨_, .plug info⟩
  by_cases hunplug : ∃ key, change = (·.unplug key)
  · obtain ⟨key, rfl⟩ := hunplug
    exact ⟨_, .unplug key⟩
  · exact ⟨none, .nothing h (fun info heq => hplug ⟨info, heq⟩) fun key heq => hunplug ⟨key, heq⟩⟩

/-- An announcement closes the descriptors that linger. Where some are left, there was none. -/
theorem Touch.publishes_none {change : Memory → Memory} (h : Touch change) (memory : Memory)
    (hlingering : (change memory).lingering ≠ []) : Publishes change none := by
  refine .nothing h (fun info heq => hlingering ?_) fun key heq => hlingering ?_
  · rw [heq]
    rfl
  · rw [heq]
    rfl

/-- A touch that is announced changes what is present, and the announcement goes into every mailbox. -/
theorem Publishes.eq_announce {change : Memory → Memory} {notice : Notice}
    (h : Publishes change (some notice)) (memory : Memory) :
    ∃ present, change memory = ({ memory with present } : Memory).announce notice := by
  cases h with
  | plug info => exact ⟨_, rfl⟩
  | unplug key => exact ⟨_, rfl⟩

/-- A touch that is not announced leaves mailboxes and open descriptors as they are. -/
theorem Publishes.stays {change : Memory → Memory} (h : Publishes change none) (memory : Memory) :
    memory.Stays (change memory) := by
  have hrefl := Stays.refl memory
  cases h with
  | nothing htouch hplug hunplug =>
    cases htouch with
    | attach info => exact ⟨rfl, rfl, rfl, rfl⟩
    | plug info => exact absurd rfl (hplug info)
    | unplug key => exact absurd rfl (hunplug key)
    | inject path data =>
      refine ⟨rfl, rfl, rfl, Table.view_map memory.pipes fun pipe => ?_⟩
      unfold pipeEnds
      split <;> rfl
    | setReportDescriptor path descriptor => exact ⟨rfl, rfl, rfl, rfl⟩
    | failNext fault => exact ⟨rfl, rfl, rfl, rfl⟩
    | elapse clock => exact ⟨rfl, rfl, rfl, rfl⟩
    | read channel room limit => exact stays_read channel room limit memory hrefl
    | write channel data => exact stays_write channel data memory hrefl
    | configure channel settings => exact stays_configure channel settings memory hrefl
    | reportDescriptor channel => exact stays_reportDescriptor channel memory hrefl
    | sendFeature channel report => exact stays_sendFeature channel report memory hrefl
    | getFeature channel number room => exact stays_getFeature channel number room memory hrefl

theorem Touch.grows {change : Memory → Memory} (h : Touch change) (memory : Memory) :
    memory.Grows (change memory) := by
  obtain ⟨_ | notice, hpublishes⟩ := h.publishes
  · exact (hpublishes.stays memory).grows
  · obtain ⟨present, heq⟩ := hpublishes.eq_announce memory
    have hpresent : memory.Grows { memory with present } := Stays.grows ⟨rfl, rfl, rfl, rfl⟩
    exact heq ▸ hpresent.trans (grows_announce ..)

/-! ### Names -/

/-- Names are not given twice, and the later memory gave no fewer. -/
def Onward (memory later : Memory) : Prop :=
  later.Fresh ∧ memory.next ≤ later.next

theorem onward_enter (operation : Operation) :
    (enter operation).Hoare memory.Onward fun _ => memory.Onward :=
  hoare_enter operation fun _ h => ⟨⟨h.1.mailboxes, h.1.pipes⟩, h.2⟩

theorem onward_enumerate (filter : Filter) :
    (enumerate filter).Hoare memory.Onward fun _ => memory.Onward :=
  .bind_keep (onward_enter .enumerate) fun _ => .bind_keep (.get fun _ h => h) fun _ =>
    .pure fun _ h => h

theorem onward_subscribe : subscribe.Hoare memory.Onward fun _ => memory.Onward := by
  refine .bind_keep (onward_enter .subscribe) fun _ => .modifyGet fun later h => ?_
  refine ⟨⟨fun name hname => ?_, fun name hname => ?_⟩, Nat.le_succ_of_le h.2⟩
  · exact Table.get?_insert_of_none (h.1.mailboxes name (Nat.le_of_succ_le hname))
      (Nat.ne_of_gt hname)
  · exact h.1.pipes name (Nat.le_of_succ_le hname)

theorem onward_drain (subscriber : Subscriber) :
    (drain subscriber).Hoare memory.Onward fun _ => memory.Onward := by
  refine .bind_keep (.attempt (onward_enter .drain)) fun ending => ?_
  cases ending with
  | returned _ =>
    refine .bind_keep (.modifyGet fun later h => ⟨⟨fun name hname => ?_, h.1.pipes⟩, h.2⟩) fun _ =>
      .pure fun _ h => h
    exact Table.get?_update_of_none _ _ (h.1.mailboxes name hname)
  | failed failure => exact .pure fun _ h => h
  | unending => exact .wait fun _ h => h

theorem onward_open (info : Info) : (open_ info).Hoare memory.Onward fun _ => memory.Onward := by
  refine .bind_keep (onward_enter .openDevice) fun _ => .bind_keep (.get fun _ h => h) fun now => ?_
  split
  · exact .fail fun _ h => h
  · refine .modifyGet fun later h => ?_
    refine ⟨⟨fun name hname => ?_, fun name hname => ?_⟩, Nat.le_succ_of_le h.2⟩
    · exact h.1.mailboxes name (Nat.le_of_succ_le hname)
    · exact Table.get?_insert_of_none (h.1.pipes name (Nat.le_of_succ_le hname)) (Nat.ne_of_gt hname)

/-- No operation of the platform gives a name twice. -/
theorem frame_fresh :
    Platform.Frame (fun memory later : Memory => memory.Fresh → memory.Onward later)
      fun _ => True where
  refl _ h := ⟨h, Nat.le_refl _⟩
  trans _ _ _ h h' hfresh := ⟨(h' (h hfresh).1).1, Nat.le_trans (h hfresh).2 (h' (h hfresh).1).2⟩
  enumerate _ filter memory h := onward_enumerate filter memory ⟨h, Nat.le_refl _⟩
  subscribe _ _ memory h := onward_subscribe memory ⟨h, Nat.le_refl _⟩
  unsubscribe _ _ _ h :=
    ⟨⟨fun name hname => Table.get?_erase_of_none _ (h.mailboxes name hname), h.pipes⟩, Nat.le_refl _⟩
  drain source memory _ h := onward_drain source memory ⟨h, Nat.le_refl _⟩
  openChannel _ info memory h := onward_open info memory ⟨h, Nat.le_refl _⟩
  closeChannel _ _ h :=
    ⟨⟨h.mailboxes, fun name hname => Table.get?_erase_of_none _ (h.pipes name hname)⟩, Nat.le_refl _⟩

end Hotplug.Memory
