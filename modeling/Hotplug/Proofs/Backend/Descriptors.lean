import Mathlib.Data.List.Pairwise
import Mathlib.Data.List.Perm.Subperm
import Hotplug.Proofs.Backend.Failing
import Hotplug.Proofs.Wait.LevelTriggered
/-!
# Descriptors in memory

A descriptor is given out while it is free, so the descriptors that are open at one time are distinct.
The descriptor of a subscriber therefore has input exactly while there are signals in his own mailbox,
whatever else is open.

## Main definitions

* `Hotplug.Memory.Separate`: the open descriptors are distinct.

## Main statements

* `Hotplug.newDescriptor_not_mem`: a new descriptor was free.
* `Hotplug.Memory.frame_separate`, `Hotplug.Memory.Publishes.separate`: whatever happens to devices in memory
  leaves the descriptors distinct.
* `Hotplug.Memory.Separate.isQuiet_receiver`: the descriptor of a subscriber.
* `Hotplug.Memory.ends_waitAll_ready`, `Hotplug.Memory.waitAll_ending_quiet`: what becomes of a wait for
  descriptors.
* `Hotplug.Memory.readable_ending`: what becomes of a wait for one descriptor.
-/

namespace Hotplug

/-- The numbers passed over on the way are taken, and so is the last one only if the tries ran out. -/
theorem lowestFree_spec (taken : List Nat) (start tries : Nat) :
    lowestFree taken start tries ≤ start + tries ∧
      (∀ n, start ≤ n → n < lowestFree taken start tries → n ∈ taken) ∧
      (lowestFree taken start tries ∈ taken → lowestFree taken start tries = start + tries) := by
  induction tries generalizing start with
  | zero => exact ⟨Nat.le_refl _, fun n hle hlt => absurd hlt (Nat.not_lt.2 hle), fun _ => rfl⟩
  | succ tries ih =>
    rw [lowestFree]
    split
    · next hstart =>
      obtain ⟨hle, hpassed, hlast⟩ := ih (start + 1)
      refine ⟨by omega, fun n hn hlt => ?_, fun hmem => by rw [hlast hmem]; omega⟩
      rcases Nat.eq_or_lt_of_le hn with rfl | hn
      · exact List.contains_iff_mem.1 hstart
      · exact hpassed n hn hlt
    · next hstart =>
      refine ⟨Nat.le_add_right _ _, fun n hle hlt => absurd hlt (Nat.not_lt.2 hle), fun hmem => ?_⟩
      exact absurd (List.contains_iff_mem.2 hmem) hstart

/-- A new descriptor was free: more numbers are tried than can be taken. -/
theorem newDescriptor_not_mem (taken : List Nat) : newDescriptor taken ∉ taken := by
  intro hmem
  obtain ⟨-, hpassed, hlast⟩ := lowestFree_spec taken 3 taken.length
  have heq : newDescriptor taken = 3 + taken.length := hlast hmem
  have hsub : List.range' 3 (taken.length + 1) ⊆ taken := by
    intro n hn
    obtain ⟨hle, hlt⟩ := List.mem_range'_1.1 hn
    rcases Nat.eq_or_lt_of_le (Nat.le_of_lt_succ hlt) with hlast | hlt
    · exact (heq.trans hlast.symm) ▸ hmem
    · exact hpassed n hle (Nat.lt_of_lt_of_eq hlt heq.symm)
  have hlength := (List.subperm_of_subset List.nodup_range' hsub).length_le
  rw [List.length_range'] at hlength
  omega

namespace Memory

/-! ### Distinct descriptors -/

/-- The descriptors of a mailbox. -/
def boxEnds (box : Mailbox) : Nat × Nat :=
  (box.signal, box.receiver)

/-- The open descriptors are distinct, and each mailbox and each pipe has a name of its own. -/
structure Separate (memory : Memory) : Prop where
  mailboxes : memory.mailboxes.keys.Nodup
  pipes : memory.pipes.keys.Nodup
  descriptors : memory.descriptors.Nodup

variable {memory later : Memory}

theorem separate_empty : ({} : Memory).Separate :=
  ⟨.nil, .nil, .nil⟩

theorem nodup_of_count_le {before after : List Nat} (h : before.Nodup)
    (hle : ∀ fd, after.count fd ≤ before.count fd) : after.Nodup :=
  List.nodup_iff_count_le_one.2 fun fd =>
    Nat.le_trans (hle fd) (List.nodup_iff_count_le_one.1 h fd)

/-- If the mailboxes have the same descriptors and so have the pipes, nothing more is open. -/
theorem Separate.of_ends (h : memory.Separate)
    (hboxes : later.mailboxes.view boxEnds = memory.mailboxes.view boxEnds)
    (hlingering : later.lingering.Sublist memory.lingering) (hends : later.ends = memory.ends) :
    later.Separate := by
  refine ⟨Table.keys_congr hboxes ▸ h.mailboxes, ?_, h.descriptors.sublist ?_⟩
  · exact Table.keys_congr (show later.pipes.view pipeEnds = memory.pipes.view pipeEnds from hends) ▸ h.pipes
  · have hmail : later.mailboxes.values.flatMap (fun box => [box.signal, box.receiver]) =
        memory.mailboxes.values.flatMap fun box => [box.signal, box.receiver] :=
      Table.flatMap_values_congr hboxes fun pair => [pair.1, pair.2]
    have hpipe : later.pipes.values.flatMap (fun pipe => [pipe.host, pipe.device]) =
        memory.pipes.values.flatMap fun pipe => [pipe.host, pipe.device] :=
      Table.flatMap_values_congr hends fun pair => [pair.1, pair.2]
    rw [Memory.descriptors, Memory.descriptors, hmail, hpipe]
    exact ((List.Sublist.refl _).append hlingering).append (.refl _)

/-- What is not announced leaves the descriptors as they are; an announcement closes those that
lingered. -/
theorem Publishes.separate {change : Memory → Memory} {notice : Option Notice} (hpublishes : Publishes change notice)
    (h : memory.Separate) : (change memory).Separate := by
  cases notice with
  | none =>
    have hstays := hpublishes.stays memory
    exact h.of_ends (hstays.mailboxes ▸ rfl) (hstays.lingering ▸ .refl _) hstays.ends
  | some notice =>
    obtain ⟨present, heq⟩ := hpublishes.eq_announce memory
    rw [heq]
    exact h.of_ends (Table.view_map memory.mailboxes fun _ => rfl) (List.nil_sublist _) rfl

theorem Separate.entered (h : memory.Separate) (operation : Operation) :
    (memory.entered operation).Separate :=
  h.of_ends rfl (.refl _) rfl

theorem Separate.newPair (h : memory.Separate) :
    (memory.newPair.2 :: memory.newPair.1 :: memory.descriptors).Nodup :=
  List.nodup_cons.2 ⟨newDescriptor_not_mem _, List.nodup_cons.2 ⟨newDescriptor_not_mem _, h.descriptors⟩⟩

theorem Separate.subscribed (h : memory.Separate) : memory.subscribed.Separate := by
  refine ⟨Table.nodup_keys_insert h.mailboxes _ _, h.pipes, nodup_of_count_le h.newPair fun fd => ?_⟩
  have hcount := Table.count_insert memory.mailboxes memory.next
    { signal := memory.newPair.1, receiver := memory.newPair.2 }
    (fun box : Mailbox => [box.signal, box.receiver]) fd
  simp only [Memory.descriptors, Memory.subscribed, Memory.entered, List.count_append,
    List.count_cons, List.count_nil] at hcount ⊢
  omega

theorem Separate.opened (h : memory.Separate) (info : Info) : (memory.opened info).Separate := by
  refine ⟨h.mailboxes, Table.nodup_keys_insert h.pipes _ _, nodup_of_count_le h.newPair fun fd => ?_⟩
  have hcount := Table.count_insert memory.pipes memory.next
    { path := info.path, host := memory.newPair.1, device := memory.newPair.2 }
    (fun pipe : Pipe => [pipe.host, pipe.device]) fd
  simp only [Memory.descriptors, Memory.opened, Memory.entered, Memory.alter, List.count_append,
    List.count_cons, List.count_nil] at hcount ⊢
  omega

/-- The signalling descriptor of a subscription that ends stays open, the other one does not. -/
theorem Separate.unsubscribe (h : memory.Separate) (subscriber : Subscriber) :
    (Memory.unsubscribe subscriber memory).Separate := by
  refine ⟨Table.nodup_keys_erase h.mailboxes _, h.pipes, nodup_of_count_le h.descriptors fun fd => ?_⟩
  have hcount := Table.count_erase h.mailboxes subscriber.id
    (fun box : Mailbox => [box.signal, box.receiver]) fd
  simp only [Memory.descriptors, Memory.unsubscribe, Table.under, List.count_append] at hcount ⊢
  cases hbox : memory.mailboxes.get? subscriber.id with
  | none =>
    simp only [hbox, Option.map_none, Option.getD_none, Option.toList_none, List.count_nil] at hcount ⊢
    omega
  | some box =>
    simp only [hbox, Option.map_some, Option.getD_some, Option.toList_some, List.count_cons,
      List.count_nil] at hcount ⊢
    omega

theorem Separate.close (h : memory.Separate) (channel : Channel) :
    (Memory.close channel memory).Separate := by
  refine ⟨h.mailboxes, Table.nodup_keys_erase h.pipes _, nodup_of_count_le h.descriptors fun fd => ?_⟩
  have hcount := Table.count_erase h.pipes channel.id (fun pipe : Pipe => [pipe.host, pipe.device]) fd
  simp only [Memory.descriptors, Memory.close, List.count_append] at hcount ⊢
  omega

/-- The operations of the platform leave the descriptors distinct. -/
theorem frame_separate :
    Platform.Frame (fun memory later : Memory => memory.Separate → later.Separate) fun _ => True where
  refl _ h := h
  trans _ _ _ h h' hseparate := h' (h hseparate)
  enumerate _ filter memory h := by
    rw [show ((Platform.enumerate _ filter).run memory).state = _ from enumerate_state filter memory]
    exact h.entered _
  subscribe _ _ memory h := by
    rcases memory.subscribe_cases with hends | ⟨failure, hends⟩
    · exact hends.2 ▸ h.subscribed
    · exact hends.2 ▸ h.entered _
  unsubscribe source _ _ h := h.unsubscribe source
  drain source memory _ h := by
    rcases drain_ends source memory with hends | ⟨failure, hends⟩
    · exact hends.2 ▸ h.of_ends (Table.view_update memory.mailboxes source.id fun _ => rfl) (.refl _) rfl
    · exact hends.2 ▸ h.entered _
  openChannel _ info memory h := by
    rcases open_cases info memory with hends | ⟨failure, hends⟩
    · exact hends.2 ▸ h.opened info
    · exact hends.2 ▸ h.entered _
  closeChannel channel _ h := h.close channel

/-! ### The descriptor of a subscriber -/

theorem Separate.nodup_mailboxes (h : memory.Separate) :
    (memory.mailboxes.values.flatMap fun box => [box.signal, box.receiver]).Nodup :=
  (List.nodup_append.1 (List.nodup_append.1 h.descriptors).1).1

/-- Where everything that is held is held once, it has one holder. -/
theorem eq_of_mem_flatMap {α : Type} {holders : List α} {held : α → List Nat}
    (h : (holders.flatMap held).Nodup) {first second : α} (hfirst : first ∈ holders)
    (hsecond : second ∈ holders) {fd : Nat} (hfd : fd ∈ held first) (hfd' : fd ∈ held second) :
    second = first := by
  have hsymm : Std.Symm (Function.onFun List.Disjoint held) :=
    ⟨fun _ _ hdisjoint _ hmem hmem' => hdisjoint hmem' hmem⟩
  by_contra hne
  exact (List.nodup_flatMap.1 h).2.forall hsecond hfirst hne hfd' hfd

/-- The descriptor of a subscriber is open, and it has input exactly while signals wait. -/
theorem Separate.isQuiet_receiver (h : memory.Separate) {name : Nat} {box : Mailbox}
    (hbox : memory.mailboxes.get? name = some box) :
    memory.isQuiet box.receiver = true ↔ box.signals = 0 := by
  have hmem : box ∈ memory.mailboxes.values := Table.mem_values_of_get? hbox
  rw [isQuiet, Bool.or_eq_true, List.any_eq_true, List.any_eq_true]
  refine ⟨fun hquiet => ?_, fun hnone => .inl ⟨box, hmem, by simp [hnone]⟩⟩
  rcases hquiet with ⟨other, hother, hends⟩ | ⟨pipe, hpipe, hends⟩
  · simp only [Bool.or_eq_true, Bool.and_eq_true, beq_iff_eq] at hends
    have hreceiver : box.receiver ∈ [box.signal, box.receiver] := by simp
    have heq : other = box := eq_of_mem_flatMap h.nodup_mailboxes hmem hother hreceiver (by grind)
    subst heq
    rcases hends with hsignal | ⟨-, hnone⟩
    · -- The two descriptors of a mailbox differ.
      have hpair := (List.nodup_flatMap.1 h.nodup_mailboxes).1 other hmem
      simp [hsignal] at hpair
    · exact hnone
  · -- No pipe has a descriptor of a mailbox.
    have hdisjoint := (List.nodup_append.1 h.descriptors).2.2
    have hreceiver : box.receiver ∈ memory.mailboxes.values.flatMap fun box => [box.signal, box.receiver] :=
      List.mem_flatMap.2 ⟨box, hmem, by simp⟩
    refine absurd rfl (hdisjoint _ (List.mem_append_left _ hreceiver) box.receiver
      (List.mem_flatMap.2 ⟨pipe, hpipe, ?_⟩))
    simp only [Bool.or_eq_true, Bool.and_eq_true, beq_iff_eq] at hends
    grind

/-! ### Waiting for descriptors -/

theorem descriptors_map (fds : List Int) : Waitable.descriptors (fds.map .fd) = .ok fds := by
  induction fds with
  | nil => rfl
  | cons fd rest ih =>
    rw [List.map_cons, Waitable.descriptors, ih]
    rfl

section Waiting

variable {fds : List Int}

theorem readyPlaces_singleton (memory : Memory) (fd : Nat) :
    memory.readyPlaces [(fd : Int)] = if memory.isQuiet fd then [] else [0] := by
  rw [readyPlaces]
  cases hquiet : memory.isQuiet fd <;> simp [hquiet]

theorem readyPlaces_atTime (memory : Memory) (clock : Nat) (fds : List Int) :
    (memory.atTime clock).readyPlaces fds = memory.readyPlaces fds := rfl

theorem ends_begin (limit : Int) (memory : Memory) :
    (native.begin limit).Ends memory (.returned (.ofLimit limit memory.clock)) memory := by
  unfold Primitive.begin
  split
  · next hlimit => exact ⟨by simp [Deadline.ofLimit, hlimit], rfl⟩
  · exact .bind ⟨rfl, rfl⟩ ⟨rfl, rfl⟩

theorem ends_left (deadline : Deadline) (memory : Memory) :
    (native.left deadline).Ends memory (.returned (deadline.remaining memory.clock)) memory := by
  obtain ⟨_ | moment⟩ := deadline
  · exact ⟨rfl, rfl⟩
  · exact .bind ⟨rfl, rfl⟩ ⟨rfl, rfl⟩

theorem ends_isOver (deadline : Deadline) (memory : Memory) :
    (native.isOver deadline).Ends memory (.returned (deadline.isPast memory.clock)) memory := by
  obtain ⟨_ | moment⟩ := deadline
  · exact ⟨rfl, rfl⟩
  · exact .bind ⟨rfl, rfl⟩ ⟨rfl, rfl⟩

/-- A call says of descriptors with input that they are ready. It waits if there are none, until the limit
runs out or, without a limit, forever. -/
theorem run_call (memory : Memory) (fds : List Int) (limit : Int) :
    (native.call (fds.map .fd) limit).run memory =
      if memory.readyPlaces fds = [] then
        if limit < 0 then ⟨.unending, memory, []⟩
        else ⟨.returned .timedOut, memory.atTime (memory.clock + limit.toNat * Deadline.perMilli), []⟩
      else ⟨.returned (.ready (memory.readyPlaces fds)), memory, []⟩ := by
  have hrequire : (Action.require (Waitable.descriptors (fds.map .fd))).run memory =
      ⟨.returned fds, memory, []⟩ := by
    rw [descriptors_map]
    rfl
  refine (Action.run_bind_returned hrequire).trans ?_
  rw [Action.run_bind_returned (Action.run_get memory)]
  cases memory.readyPlaces fds with
  | cons place rest => rfl
  | nil =>
    by_cases hlimit : limit < 0
    · simp only [if_pos hlimit]
      rfl
    · simp only [if_neg hlimit]
      rfl

/-- An attempt is a call, since any number of descriptors can be waited for at once. -/
theorem attempt_eq_call (patience : Nat) (objects : List Waitable) (limit slice : Int) :
    native.attempt patience objects limit slice = native.call objects limit := rfl

theorem ends_attempts_ready (hready : memory.readyPlaces fds ≠ []) (patience : Nat) (slice : Int)
    (deadline : Deadline) (tries : Nat) :
    (native.attempts patience (fds.map .fd) slice deadline (tries + 1)).Ends memory
      (.returned (memory.readyPlaces fds)) memory := by
  have hcall : (native.attempt patience (fds.map .fd) (deadline.remaining memory.clock) slice).Ends
      memory (.returned (.ready (memory.readyPlaces fds))) memory := by
    rw [attempt_eq_call, Action.Ends, run_call, if_neg hready]
    exact ⟨rfl, rfl⟩
  exact .bind (ends_left deadline memory) (.bind hcall ⟨rfl, rfl⟩)

theorem ends_attempts_endless (hquiet : memory.readyPlaces fds = []) (patience : Nat) (slice : Int)
    (tries : Nat) :
    (native.attempts patience (fds.map .fd) slice ⟨none⟩ tries).Ends memory .unending memory := by
  cases tries with
  | zero => exact ⟨rfl, rfl⟩
  | succ more =>
    refine .bind (ends_left ⟨none⟩ memory) (.bind_unending ?_)
    rw [attempt_eq_call, Action.Ends, run_call, if_pos hquiet]
    exact ⟨rfl, rfl⟩

/-- The time after an attempt that lasted as long as it could. -/
def afterAttempt (memory : Memory) (deadline : Deadline) : Memory :=
  memory.atTime (memory.clock + (deadline.remaining memory.clock).toNat * Deadline.perMilli)

theorem ends_attempts_succ (hquiet : memory.readyPlaces fds = []) {deadline : Deadline}
    (hfinite : 0 ≤ deadline.remaining memory.clock) {patience tries : Nat} {slice : Int}
    {ending : Ending (List Nat)} {left : Memory}
    (h : (if deadline.isPast (memory.afterAttempt deadline).clock ∨ deadline.remaining memory.clock = 0
        then pure [] else native.attempts patience (fds.map .fd) slice deadline tries).Ends
      (memory.afterAttempt deadline) ending left) :
    (native.attempts patience (fds.map .fd) slice deadline (tries + 1)).Ends memory ending left := by
  have hcall : (native.attempt patience (fds.map .fd) (deadline.remaining memory.clock) slice).Ends
      memory (.returned .timedOut) (memory.afterAttempt deadline) := by
    rw [attempt_eq_call, Action.Ends, run_call, if_pos hquiet, if_neg (Int.not_lt.2 hfinite)]
    exact ⟨rfl, rfl⟩
  exact .bind (ends_left deadline memory) (.bind hcall (.bind (ends_isOver deadline _) h))

/-- With a deadline, a wait for quiet descriptors comes back with nothing. It takes one attempt more
than there are milliseconds left, at most. -/
theorem ends_attempts_quiet (hquiet : memory.readyPlaces fds = []) (patience : Nat) (slice : Int)
    {moment tries : Nat} (htries : moment ≤ memory.clock + tries * Deadline.perMilli) :
    ∃ left, (native.attempts patience (fds.map .fd) slice ⟨some moment⟩ (tries + 1)).Ends memory
      (.returned []) left := by
  induction tries generalizing memory with
  | zero =>
    have hnone : (⟨some moment⟩ : Deadline).remaining memory.clock = 0 :=
      Deadline.remaining_of_le (by simpa using htries)
    refine ⟨memory.afterAttempt ⟨some moment⟩, ends_attempts_succ hquiet (Int.le_of_eq hnone.symm) ?_⟩
    rw [if_pos (.inr hnone)]
    exact ⟨rfl, rfl⟩
  | succ more ih =>
    have hfinite : 0 ≤ (⟨some moment⟩ : Deadline).remaining memory.clock := Int.natCast_nonneg _
    by_cases hover : (⟨some moment⟩ : Deadline).isPast (memory.afterAttempt ⟨some moment⟩).clock ∨
        (⟨some moment⟩ : Deadline).remaining memory.clock = 0
    · refine ⟨memory.afterAttempt ⟨some moment⟩, ends_attempts_succ hquiet hfinite ?_⟩
      rw [if_pos hover]
      exact ⟨rfl, rfl⟩
    · -- The attempt took a millisecond at least.
      have hlater : moment ≤ (memory.afterAttempt ⟨some moment⟩).clock + more * Deadline.perMilli := by
        have hsome : 1 ≤ ((⟨some moment⟩ : Deadline).remaining memory.clock).toNat := by omega
        have hmilli := Nat.mul_le_mul_right Deadline.perMilli hsome
        rw [Nat.add_one_mul] at htries
        change moment ≤ memory.clock + _ * Deadline.perMilli + _
        omega
      have hstill : (memory.afterAttempt ⟨some moment⟩).readyPlaces fds = [] :=
        (readyPlaces_atTime memory _ fds).trans hquiet
      obtain ⟨left, hends⟩ := ih hstill hlater
      refine ⟨left, ends_attempts_succ hquiet hfinite ?_⟩
      rw [if_neg hover]
      exact hends

/-- Waiting for descriptors some of which have input succeeds at once, and takes no time. -/
theorem ends_waitAll_ready (hready : memory.readyPlaces fds ≠ []) (limit slice : Int) :
    (native.waitAll (fds.map .fd) limit slice).Ends memory (.returned (memory.readyPlaces fds)) memory :=
  (ends_begin limit memory).bind (ends_attempts_ready hready ..)

/-- Without input the limit runs out; a wait without a limit does not come back. -/
theorem waitAll_ending_quiet (hquiet : memory.readyPlaces fds = []) (limit slice : Int) :
    ((native.waitAll (fds.map .fd) limit slice).run memory).ending =
      if limit < 0 then .unending else .returned [] := by
  by_cases hlimit : limit < 0
  · have hnever : Deadline.ofLimit limit memory.clock = ⟨none⟩ := by simp [Deadline.ofLimit, hlimit]
    have hends := ends_attempts_endless hquiet (limit.toNat + 2) slice (limit.toNat + 2)
    rw [if_pos hlimit]
    exact ((ends_begin limit memory).bind (hnever ▸ hends)).1
  · have hdue : Deadline.ofLimit limit memory.clock =
        ⟨some (memory.clock + limit.toNat * Deadline.perMilli)⟩ := by simp [Deadline.ofLimit, hlimit]
    have hle : memory.clock + limit.toNat * Deadline.perMilli ≤
        memory.clock + (limit.toNat + 1) * Deadline.perMilli := by
      rw [Nat.add_one_mul]
      omega
    obtain ⟨left, hends⟩ := ends_attempts_quiet hquiet (limit.toNat + 2) slice hle
    rw [if_neg hlimit]
    exact ((ends_begin limit memory).bind (hdue ▸ hends)).1

/-- What becomes of a wait for one descriptor. -/
theorem readable_ending (memory : Memory) (fd : Nat) (limit : Int) :
    ((native.readable (.fd fd) limit).run memory).ending =
      if memory.isQuiet fd then if limit < 0 then .unending else .returned false
      else .returned true := by
  have hvalid : (Waitable.fd fd).isValid = true := by simp [Waitable.isValid]
  have hplaces := readyPlaces_singleton memory fd
  unfold NativeWait.readable
  simp only [hvalid, Bool.not_true, Bool.false_eq_true, if_false]
  rw [Action.run_bind_pure]
  cases hquiet : memory.isQuiet fd with
  | false =>
    rw [hquiet] at hplaces
    have hready : memory.readyPlaces [(fd : Int)] ≠ [] := hplaces ▸ List.cons_ne_nil _ _
    rw [show ((native.waitAll [.fd fd] limit standardSlice).run memory).ending = _ from
      (ends_waitAll_ready hready limit standardSlice).1, hplaces]
    rfl
  | true =>
    rw [hquiet] at hplaces
    rw [show ((native.waitAll [.fd fd] limit standardSlice).run memory).ending = _ from
      waitAll_ending_quiet hplaces limit standardSlice]
    by_cases hlimit : limit < 0
    · simp [hlimit, Ending.map]
    · simp [hlimit, Ending.map]

end Waiting

end Memory

end Hotplug
