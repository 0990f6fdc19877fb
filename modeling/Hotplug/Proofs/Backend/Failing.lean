import Hotplug.Proofs.Backend.Traffic
/-!
# Calls that fail

A call that fails is counted, and the fault that waited for it is used up. Nothing else of the devices
in memory changes, also when an earlier call has to be taken back. Only the signalling descriptor of a
subscription that is taken back stays open until the next announcement.

## Main definitions

* `Hotplug.Memory.Unharmed`: what failed calls leave of a memory.

## Main statements

* `Hotplug.Memory.unharmed_entered`: a call that is refused.
* `Hotplug.Memory.unharmed_unsubscribe`, `Hotplug.Memory.unharmed_close`: a call that is taken back.
* `Hotplug.Memory.Unharmed.descriptors_announce`: what was left behind is gone with the next
  announcement.
-/

namespace Hotplug.Memory

/-- Some calls were made and came to nothing, and some signalling descriptors stayed open. Everything
else is as it was, but for the names that were given. -/
structure Unharmed (made : List Operation) (left : List Nat) (memory later : Memory) : Prop where
  present : later.present = memory.present
  mailboxes : later.mailboxes = memory.mailboxes
  pipes : later.pipes = memory.pipes
  /-- What is kept of the devices, settings included. -/
  device : ∀ path, later.device path = memory.device path
  clock : later.clock = memory.clock
  calls : later.calls = memory.calls ++ made
  faults : ∀ operation, later.faults.get? operation =
    if operation ∈ made then none else memory.faults.get? operation
  lingering : later.lingering = memory.lingering ++ left
  next_le : memory.next ≤ later.next

variable {memory later : Memory} {made : List Operation} {left : List Nat}

theorem Unharmed.refl (memory : Memory) : memory.Unharmed [] [] memory :=
  ⟨rfl, rfl, rfl, fun _ => rfl, rfl, (List.append_nil _).symm, fun _ => rfl,
    (List.append_nil _).symm, Nat.le_refl _⟩

/-- What was left behind is gone with the next announcement. -/
theorem Unharmed.descriptors_announce (h : memory.Unharmed made left later) (notice : Notice) :
    (later.announce notice).descriptors = (memory.announce notice).descriptors := by
  unfold descriptors announce
  rw [h.mailboxes, h.pipes]

theorem get?_faults_entered (memory : Memory) (operation other : Operation) :
    (memory.entered operation).faults.get? other =
      if other ∈ [operation] then none else memory.faults.get? other := by
  simp only [List.mem_singleton]
  exact Table.get?_erase ..

theorem unharmed_entered (memory : Memory) (operation : Operation) :
    memory.Unharmed [operation] [] (memory.entered operation) :=
  ⟨rfl, rfl, rfl, fun _ => rfl, rfl, rfl, get?_faults_entered memory operation,
    (List.append_nil _).symm, Nat.le_refl _⟩

/-! ### Subscriptions -/

/-- The memory with one more subscriber. -/
def subscribed (memory : Memory) : Memory :=
  { memory.entered .subscribe with
    mailboxes := memory.mailboxes.insert memory.next
      { signal := memory.newPair.1, receiver := memory.newPair.2 }
    next := memory.next + 1 }

/-- The next subscriber. -/
def nextSubscriber (memory : Memory) : Subscriber :=
  ⟨memory.next, memory.newPair.2⟩

theorem subscribe_cases (memory : Memory) :
    subscribe.Ends memory (.returned memory.nextSubscriber) memory.subscribed ∨
      ∃ failure, subscribe.Ends memory (.failed failure) (memory.entered .subscribe) := by
  rcases enter_cases .subscribe memory with henter | ⟨failure, henter⟩
  · exact .inl (.bind henter ⟨rfl, rfl⟩)
  · exact .inr ⟨failure, .bind_failed henter⟩

/-- Listing devices changes nothing but the count of calls and the faults. -/
theorem enumerate_state (filter : Filter) (memory : Memory) :
    ((enumerate filter).run memory).state = memory.entered .enumerate := by
  rcases enter_cases .enumerate memory with henter | ⟨failure, henter⟩
  · have hends : (enumerate filter).Ends memory _ _ := .bind henter (.bind ⟨rfl, rfl⟩ ⟨rfl, rfl⟩)
    exact hends.2
  · have hends : (enumerate filter).Ends memory (.failed failure) _ := .bind_failed henter
    exact hends.2

/-- A subscription that is taken back leaves its signalling descriptor behind. -/
theorem unharmed_unsubscribe (hfresh : memory.Fresh) :
    memory.Unharmed [.subscribe, .enumerate] [memory.newPair.1]
      (unsubscribe memory.nextSubscriber (memory.subscribed.entered .enumerate)) := by
  refine ⟨rfl, Table.erase_insert (hfresh.mailboxes _ (Nat.le_refl _)) _, rfl, fun _ => rfl, rfl, ?_,
    fun other => ?_, ?_, Nat.le_succ _⟩
  · exact List.append_assoc memory.calls [.subscribe] [.enumerate]
  · refine (get?_faults_entered memory.subscribed .enumerate other).trans ?_
    have hfirst := get?_faults_entered memory .subscribe other
    change (if _ then none else (memory.entered .subscribe).faults.get? other) = _
    rw [hfirst]
    by_cases hsubscribe : other = .subscribe
    · simp [hsubscribe]
    · simp [hsubscribe]
  · refine congrArg (memory.lingering ++ ·) ?_
    change (((memory.mailboxes.insert memory.next _).get? memory.next).map Mailbox.signal).toList = _
    rw [Table.get?_insert, if_pos rfl]
    rfl

/-- A delivery that fails takes nothing out. -/
theorem drain_state {subscriber : Subscriber}
    (h : ∀ drained, ((drain subscriber).run memory).ending = .returned drained →
      drained.failure ≠ none) :
    ((drain subscriber).run memory).state = memory.entered .drain := by
  rcases drain_ends subscriber memory with hends | ⟨failure, hends⟩
  · exact absurd rfl (h _ hends.1)
  · exact hends.2

/-! ### Channels -/

/-- The memory with one more open channel. -/
def opened (memory : Memory) (info : Info) : Memory :=
  { (memory.entered .openDevice).alter info.path id with
    pipes := memory.pipes.insert memory.next
      { path := info.path, host := memory.newPair.1, device := memory.newPair.2 }
    next := memory.next + 1 }

/-- The next channel to the device of an interface. -/
def nextChannel (memory : Memory) (info : Info) : Channel :=
  ⟨memory.next, info.path, memory.newPair.1⟩

theorem open_cases (info : Info) (memory : Memory) :
    (open_ info).Ends memory (.returned (memory.nextChannel info)) (memory.opened info) ∨
      ∃ failure, (open_ info).Ends memory (.failed failure) (memory.entered .openDevice) := by
  rcases enter_cases .openDevice memory with henter | ⟨failure, henter⟩
  · by_cases hthere : (memory.entered .openDevice).present.all (·.path ≠ info.path)
    · refine .inr ⟨absent info.path, .bind henter (.bind ⟨rfl, rfl⟩ ?_)⟩
      rw [if_pos hthere]
      exact ⟨rfl, rfl⟩
    · refine .inl (.bind henter (.bind ⟨rfl, rfl⟩ ?_))
      rw [if_neg hthere]
      exact ⟨rfl, rfl⟩
  · exact .inr ⟨failure, .bind_failed henter⟩

theorem device_alter (memory : Memory) (path other : String) (f : MemoryDevice → MemoryDevice) :
    (memory.alter path f).device other =
      if other = path then f (memory.device other) else memory.device other := by
  simp only [device, alter, Table.get?_insert]
  split
  · next heq => rw [heq]; rfl
  · rfl

theorem device_alter_id (memory : Memory) (path other : String) :
    (memory.alter path id).device other = memory.device other :=
  (device_alter ..).trans (ite_self _)

/-- A channel that is closed again leaves nothing behind. -/
theorem unharmed_close (hfresh : memory.Fresh) (info : Info) :
    memory.Unharmed [.openDevice] [] (close (memory.nextChannel info) (memory.opened info)) := by
  refine ⟨rfl, rfl, Table.erase_insert (hfresh.pipes _ (Nat.le_refl _)) _, ?_, rfl, rfl, ?_,
    (List.append_nil _).symm, Nat.le_succ _⟩
  · exact device_alter_id (memory.entered .openDevice) info.path
  · exact get?_faults_entered memory .openDevice

theorem configure_cases (channel : Channel) (settings : Serial.Settings) (memory : Memory) :
    ((configure channel settings).run memory).ending = .returned () ∨
      ∃ failure,
        (configure channel settings).Ends memory (.failed failure) (memory.entered .configureSerial) := by
  rcases enter_cases .configureSerial memory with henter | ⟨failure, henter⟩
  · have hends : (configure channel settings).Ends memory (.returned ()) _ :=
      .bind henter ⟨rfl, rfl⟩
    exact .inl hends.1
  · exact .inr ⟨failure, .bind_failed henter⟩

end Hotplug.Memory
