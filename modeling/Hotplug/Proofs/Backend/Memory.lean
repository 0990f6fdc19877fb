import Hotplug.Backend.Memory
import Hotplug.Proofs.Hoare
/-!
# Mailboxes in memory

The calls of a subscriber act on his own mailbox only. A mailbox is emptied by a delivery that does
not fail, and by nothing else; what is announced goes into every mailbox.

## Main definitions

* `Hotplug.Memory.Spares`: the devices present and one mailbox are left alone.

## Main statements

* `Hotplug.Memory.spares_subscribe`, `Hotplug.Memory.spares_drain`, `Hotplug.Memory.spares_open`: calls
  of others.
* `Hotplug.Memory.drain_cases`: a delivery to a subscriber.
-/

namespace Hotplug.Memory

/-- The later memory has the same devices present and the same mailbox under a name. -/
structure Spares (name : Nat) (memory later : Memory) : Prop where
  present : later.present = memory.present
  mailbox : later.mailboxes.get? name = memory.mailboxes.get? name
  next_le : memory.next ≤ later.next

variable {name : Nat} {memory : Memory}

theorem Spares.refl (name : Nat) (memory : Memory) : Spares name memory memory :=
  ⟨rfl, rfl, Nat.le_refl _⟩

theorem Spares.trans {later latest : Memory} (h : Spares name memory later)
    (h' : Spares name later latest) : Spares name memory latest :=
  ⟨h'.present.trans h.present, h'.mailbox.trans h.mailbox, Nat.le_trans h.next_le h'.next_le⟩

theorem spares_enter (operation : Operation) :
    (enter operation).Hoare (Spares name memory) fun _ => Spares name memory := by
  refine .bind_keep (.modifyGet fun later h => ⟨h.present, h.mailbox, h.next_le⟩) fun fault => ?_
  cases fault with
  | none => exact .pure fun _ h => h
  | some code => exact .fail fun _ h => h

theorem spares_enumerate (filter : Filter) :
    (enumerate filter).Hoare (Spares name memory) fun _ => Spares name memory :=
  .bind_keep (spares_enter .enumerate) fun _ => .bind_keep (.get fun _ h => h) fun _ =>
    .pure fun _ h => h

/-- A new mailbox has a new name. -/
theorem spares_subscribe (hname : name < memory.next) :
    subscribe.Hoare (Spares name memory) fun _ => Spares name memory := by
  refine .bind_keep (spares_enter .subscribe) fun _ => .modifyGet fun later h => ⟨h.present, ?_, ?_⟩
  · refine (Table.get?_insert ..).trans ?_
    rw [if_neg (Nat.ne_of_lt (Nat.lt_of_lt_of_le hname h.next_le))]
    exact h.mailbox
  · exact Nat.le_succ_of_le h.next_le

theorem spares_unsubscribe {subscriber : Subscriber} (hother : subscriber.id ≠ name) :
    Spares name memory (unsubscribe subscriber memory) := by
  refine ⟨rfl, (Table.get?_erase ..).trans ?_, Nat.le_refl _⟩
  rw [if_neg hother.symm]

theorem spares_drain {subscriber : Subscriber} (hother : subscriber.id ≠ name) :
    (drain subscriber).Hoare (Spares name memory) fun _ => Spares name memory := by
  refine .bind_keep (.attempt (spares_enter .drain)) fun ending => ?_
  cases ending with
  | returned _ =>
    refine .bind_keep (.modifyGet fun later h => ⟨h.present, ?_, h.next_le⟩) fun _ =>
      .pure fun _ h => h
    refine (Table.get?_update ..).trans ?_
    rw [if_neg hother.symm]
    exact h.mailbox
  | failed failure => exact .pure fun _ h => h
  | unending => exact .wait fun _ h => h

theorem spares_open (info : Info) :
    (open_ info).Hoare (Spares name memory) fun _ => Spares name memory := by
  refine .bind_keep (spares_enter .openDevice) fun _ => .bind_keep (.get fun _ h => h) fun now => ?_
  split
  · exact .fail fun _ h => h
  · exact .modifyGet fun later h => ⟨h.present, h.mailbox, Nat.le_succ_of_le h.next_le⟩

/-! ### The subscriber's own calls -/

/-- The memory after a call of an operation has begun. -/
def entered (memory : Memory) (operation : Operation) : Memory :=
  { memory with
    calls := memory.calls ++ [operation]
    faults := memory.faults.erase operation }

theorem enter_of_none {operation : Operation} (h : memory.faults.get? operation = none) :
    (enter operation).Ends memory (.returned ()) (memory.entered operation) := by
  refine .bind ⟨rfl, rfl⟩ ?_
  simp only [h]
  exact ⟨rfl, rfl⟩

theorem enter_of_some {operation : Operation} {code : Code}
    (h : memory.faults.get? operation = some code) :
    (enter operation).Ends memory (.failed (Fault.failure ⟨operation, code⟩))
      (memory.entered operation) := by
  refine .bind ⟨rfl, rfl⟩ ?_
  simp only [h]
  exact ⟨rfl, rfl⟩

theorem enter_cases (operation : Operation) (memory : Memory) :
    (enter operation).Ends memory (.returned ()) (memory.entered operation) ∨
      ∃ failure, (enter operation).Ends memory (.failed failure) (memory.entered operation) := by
  cases hfault : memory.faults.get? operation with
  | none => exact .inl (enter_of_none hfault)
  | some code => exact .inr ⟨_, enter_of_some hfault⟩

/-- A listing that succeeds has what is there and passes. -/
theorem enumerate_returned {filter : Filter} {found : List Info}
    (h : ((enumerate filter).run memory).ending = .returned found) :
    found = memory.present.filter filter.passes := by
  rcases enter_cases .enumerate memory with henter | ⟨failure, henter⟩
  · obtain ⟨hending, -⟩ : (enumerate filter).Ends memory _ _ :=
      .bind henter (.bind ⟨rfl, rfl⟩ ⟨rfl, rfl⟩)
    rw [hending] at h
    cases h
    rfl
  · have hfailed : (enumerate filter).Ends memory (.failed failure) _ := .bind_failed henter
    rw [hfailed.1] at h
    cases h

/-- A subscription that succeeds opens an empty mailbox under a new name. -/
theorem subscribe_returned {subscriber : Subscriber}
    (h : (subscribe.run memory).ending = .returned subscriber) :
    subscriber.id = memory.next ∧
      (subscribe.run memory).state.present = memory.present ∧
      memory.next < (subscribe.run memory).state.next ∧
      ∃ box, (subscribe.run memory).state.mailboxes.get? subscriber.id = some box ∧
        box.queue = [] := by
  rcases enter_cases .subscribe memory with henter | ⟨failure, henter⟩
  · obtain ⟨hending, hstate⟩ : subscribe.Ends memory _ _ := .bind henter ⟨rfl, rfl⟩
    rw [hending] at h
    cases h
    rw [hstate]
    exact ⟨rfl, rfl, Nat.lt_succ_self _, _, (Table.get?_insert ..).trans (if_pos rfl), rfl⟩
  · have hfailed : subscribe.Ends memory (.failed failure) _ := .bind_failed henter
    rw [hfailed.1] at h
    cases h

/-- The memory after a delivery to a subscriber. -/
def drained (memory : Memory) (subscriber : Subscriber) : Memory :=
  { memory.entered .drain with
    mailboxes := memory.mailboxes.update subscriber.id Mailbox.empty }

theorem drain_of_none {subscriber : Subscriber} (h : memory.faults.get? .drain = none) :
    (drain subscriber).Ends memory
      (.returned { notices := ((memory.mailboxes.get? subscriber.id).map Mailbox.queue).getD [] })
      (memory.drained subscriber) := by
  have henter := enter_of_none h
  have hattempt : (enter .drain).attempt.Ends memory (.returned (.returned ()))
      (memory.entered .drain) := ⟨congrArg Ending.returned henter.1, henter.2⟩
  exact .bind hattempt (.bind ⟨rfl, rfl⟩ ⟨rfl, rfl⟩)

theorem drain_of_some {subscriber : Subscriber} {code : Code}
    (h : memory.faults.get? .drain = some code) :
    (drain subscriber).Ends memory (.returned { failure := some (Fault.failure ⟨.drain, code⟩) })
      (memory.entered .drain) := by
  have henter := enter_of_some h
  have hattempt : (enter .drain).attempt.Ends memory
      (.returned (.failed (Fault.failure ⟨.drain, code⟩))) (memory.entered .drain) :=
    ⟨congrArg Ending.returned henter.1, henter.2⟩
  exact .bind hattempt ⟨rfl, rfl⟩

theorem drain_ends (subscriber : Subscriber) (memory : Memory) :
    (drain subscriber).Ends memory
        (.returned
          { notices := ((memory.mailboxes.get? subscriber.id).map Mailbox.queue).getD [] })
        (memory.drained subscriber) ∨
      ∃ failure, (drain subscriber).Ends memory (.returned { failure := some failure })
        (memory.entered .drain) := by
  cases hfault : memory.faults.get? .drain with
  | none => exact .inl (drain_of_none hfault)
  | some code => exact .inr ⟨_, drain_of_some hfault⟩

/-- Everything that a delivery can come to. -/
inductive DrainCase (subscriber : Subscriber) (memory : Memory) : Prop
  /-- A fault was waiting, and nothing was taken. -/
  | failed (failure : Failure) (later : Memory) (hspares : Spares subscriber.id memory later)
    (hends : (drain subscriber).Ends memory (.returned { failure }) later)
  /-- The mailbox was emptied. -/
  | delivered (later : Memory) (hpresent : later.present = memory.present)
    (hnext : later.next = memory.next)
    (hmailbox : later.mailboxes.get? subscriber.id =
      (memory.mailboxes.get? subscriber.id).map Mailbox.empty)
    (hends : (drain subscriber).Ends memory (.returned
      { notices := ((memory.mailboxes.get? subscriber.id).map Mailbox.queue).getD [] }) later)

theorem drain_cases (subscriber : Subscriber) (memory : Memory) : DrainCase subscriber memory := by
  rcases drain_ends subscriber memory with hends | ⟨failure, hends⟩
  · refine .delivered _ ?_ ?_ ?_ hends
    · rfl
    · rfl
    · exact (Table.get?_update ..).trans (if_pos rfl)
  · exact .failed failure (memory.entered .drain) ⟨rfl, rfl, Nat.le_refl _⟩ hends

/-! ### Announcements -/

/-- An announcement goes into every mailbox. -/
theorem get?_announce (memory : Memory) (notice : Notice) (name : Nat) :
    (memory.announce notice).mailboxes.get? name =
      (memory.mailboxes.get? name).map (·.post notice) :=
  Table.get?_map ..

end Hotplug.Memory
