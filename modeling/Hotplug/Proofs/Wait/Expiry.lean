import Hotplug.Proofs.Simulation
import Hotplug.Proofs.Wait.LevelTriggered
/-!
# Time that runs out

A wait comes back with nothing only when its time is up. Early answers and signals do not end it: the
clock is read again after each of them, and only a reading at or beyond the deadline counts. What is
left of a limit is rounded up, so it is zero at no earlier reading.

## Main definitions

* `Hotplug.Primitive.clocked`, `Hotplug.NativeWait.clocked`: the same primitive, noting what it reads
  from the clock.
* `Hotplug.Primitive.Definite`: whoever says that something is ready says what.
* `Hotplug.Primitive.Sustains`: reading the clock and calling keep a property.
* `Hotplug.Deadline.Shown`: a reading shows that a deadline has come.
* `Hotplug.NativeWait.Expired`: what was read while a wait ran out of time.

## Main statements

* `Hotplug.Deadline.remaining_eq_zero_iff`: nothing is left exactly from the deadline on.
* `Hotplug.NativeWait.nothing_only_when_expired`: neither waiting for objects nor waiting for room
  gives up early.
-/

namespace Hotplug

variable {σ α : Type}

namespace Deadline

theorem remaining_eq_zero_iff {deadline : Deadline} {now : Nat} :
    deadline.remaining now = 0 ↔ deadline.isPast now = true := by
  obtain ⟨_ | moment⟩ := deadline
  · simp [remaining, isPast]
  · simp only [remaining, isPast, perMilli, longestLimit, decide_eq_true_eq]
    omega

theorem isPast_ofLimit {limit : Int} {start now : Nat} :
    (ofLimit limit start).isPast now = true ↔ 0 ≤ limit ∧ start + limit.toNat * perMilli ≤ now := by
  by_cases hlimit : limit < 0
  · simp [ofLimit, isPast, hlimit, Int.not_le.2 hlimit]
  · simp [ofLimit, isPast, hlimit, Int.not_lt.1 hlimit]

/-- A reading shows that the deadline has come. -/
def Shown (deadline : Deadline) (readings : List Nat) : Prop :=
  ∃ reading ∈ readings, deadline.isPast reading = true

theorem Shown.append {deadline : Deadline} {readings : List Nat} (h : deadline.Shown readings)
    (more : List Nat) : deadline.Shown (readings ++ more) := by
  obtain ⟨reading, hmem, hpast⟩ := h
  exact ⟨reading, List.mem_append_left _ hmem, hpast⟩

end Deadline

/-! ### Watching the clock -/

/-- The same primitive, noting what it reads from the clock. -/
def Primitive.clocked (p : Primitive σ) : Primitive (σ × List Nat) where
  limit := p.limit
  now := fun (s, readings) => ((p.now s).1, (p.now s).2, readings ++ [(p.now s).1])
  sleep := fun ms (s, readings) => (p.sleep ms s, readings)
  call := fun objects limit => (p.call objects limit).on Prod.fst fun s whole => (s, whole.2)
  patience := fun limit (s, _) => p.patience limit s

/-- The same primitive, noting what it reads from the clock. -/
def NativeWait.clocked (p : NativeWait σ) : NativeWait (σ × List Nat) :=
  { p.toPrimitive.clocked with
    output := fun fd limit => (p.output fd limit).on Prod.fst fun s whole => (s, whole.2) }

/-- Noting the readings does not disturb a primitive. -/
theorem NativeWait.clocked_mirrors (p : NativeWait σ) : NativeWait.Mirrors Prod.fst p.clocked p where
  limit := rfl
  now := fun _ => ⟨rfl, rfl⟩
  ask := fun _ _ _ => rfl
  patience := fun _ _ => rfl
  output := fun _ _ _ => rfl

/-- Whoever says that something is ready says what. -/
def Primitive.Definite (p : Primitive σ) : Prop :=
  ∀ objects limit state, ((p.call objects limit).run state).ending ≠ .returned (.ready [])

/-- The clock never goes back, not while waiting for room either. -/
structure NativeWait.ForwardClock (p : NativeWait σ) : Prop extends p.toPrimitive.ForwardClock where
  output : ∀ fd limit state,
    (p.now state).1 ≤ (p.now ((p.output fd limit).run state).state).1

/-- Reading the clock and calling keep a property. -/
structure Primitive.Sustains (p : Primitive σ) (property : σ → Prop) : Prop where
  now : ∀ state, property state → property (p.now state).2
  call : ∀ objects limit, (p.call objects limit).Hoare property fun _ => property

/-! ### One attempt -/

theorem sortUnique_cons_ne_nil (place : Nat) (places : List Nat) :
    sortUnique (place :: places) ≠ [] :=
  List.ne_nil_of_mem (mem_sortUnique.2 (List.mem_cons_self (l := places)))

namespace Primitive

variable {p : Primitive σ} {property other : σ → Prop}

theorem Sustains.and (h : p.Sustains property) (hother : p.Sustains other) :
    p.Sustains fun state => property state ∧ other state where
  now state both := ⟨h.now state both.1, hother.now state both.2⟩
  call objects limit state both :=
    ⟨h.call objects limit state both.1, hother.call objects limit state both.2⟩

theorem Sustains.given (h : p.Sustains property) (fact : Prop) :
    p.Sustains fun state => fact → property state where
  now state himp hfact := h.now state (himp hfact)
  call objects limit state himp hfact := h.call objects limit state (himp hfact)

theorem Sustains.timing {action : Action σ α} (h : p.Sustains property) (htiming : p.Timing action) :
    action.Hoare property fun _ => property := by
  cases htiming with
  | given value => exact .pure fun _ h => h
  | read f => exact .bind_keep (.modifyGet h.now) fun _ => .pure fun _ h => h

theorem Sustains.sweep (h : p.Sustains property) (chunks : List Chunk) (found : List Nat) :
    (Chunked.sweep p chunks found).Hoare property fun _ => property := by
  induction chunks generalizing found with
  | nil => exact .pure fun _ h => h
  | cons chunk rest ih =>
    refine .bind_keep (h.call chunk.objects 0) fun answer => ?_
    cases answer with
    | ready places => exact ih _
    | timedOut => exact ih _
    | interrupted => exact .pure fun _ h => h

/-- The rounds of a wait in chunks do not end with an empty list of ready places. -/
theorem Sustains.rounds (h : p.Sustains property) (chunks : List Chunk) (slice : Int)
    (deadline : Deadline) (patience turn : Nat) (carried : List Nat) :
    (Chunked.rounds p chunks slice deadline patience turn carried).Hoare property
      fun ending state => property state ∧ ending ≠ .returned (.ready []) := by
  induction patience generalizing turn carried with
  | zero => exact .wait fun _ h => ⟨h, nofun⟩
  | succ more ih =>
    refine .bind (h.sweep chunks carried) (fun found => ?_) (fun _ _ h => ⟨h, nofun⟩)
      fun _ h => ⟨h, nofun⟩
    match found with
    | none => exact .pure fun _ h => ⟨h, nofun⟩
    | some (place :: places) =>
      exact .pure fun _ h => ⟨h, by simpa using sortUnique_cons_ne_nil place places⟩
    | some [] =>
      refine .bind (h.timing (p.timing_left deadline)) (fun remaining => ?_) (fun _ _ h => ⟨h, nofun⟩)
        fun _ h => ⟨h, nofun⟩
      split
      · exact .pure fun _ h => ⟨h, nofun⟩
      · split
        · exact .pure fun _ h => ⟨h, nofun⟩
        · refine .bind (h.call _ _) (fun answer => ?_) (fun _ _ h => ⟨h, nofun⟩)
            fun _ h => ⟨h, nofun⟩
          cases answer with
          | ready places => exact ih _ _
          | timedOut => exact ih _ _
          | interrupted => exact .pure fun _ h => ⟨h, nofun⟩

theorem Sustains.attempt (h : p.Sustains property) (hdefinite : p.Definite) (patience : Nat)
    (objects : List Waitable) (remaining slice : Int) :
    (p.attempt patience objects remaining slice).Hoare property
      fun ending state => property state ∧ ending ≠ .returned (.ready []) := by
  have direct : (p.ask (.whole objects) remaining).Hoare property
      fun ending state => property state ∧ ending ≠ .returned (.ready []) :=
    fun state hstate => ⟨h.call _ _ state hstate, hdefinite _ _ state⟩
  unfold Primitive.attempt
  split
  · split
    · exact .bind (h.timing (p.timing_begin remaining)) (fun deadline => h.rounds _ _ deadline _ _ _)
        (fun _ _ h => ⟨h, nofun⟩) fun _ h => ⟨h, nofun⟩
    · exact direct
  · exact direct

/-! ### Readings -/

/-- A deadline that was shown to have come stays so. -/
theorem sustains_shown (p : Primitive σ) (deadline : Deadline) :
    p.clocked.Sustains fun s => deadline.Shown s.2 where
  now _ h := h.append _
  call _ _ _ h := h

/-- The first reading was at `entry`, and the clock has not gone back behind any. -/
structure Since (p : Primitive σ) (entry : Nat) (s : σ × List Nat) : Prop where
  first : s.2.head? = some entry
  passed : ∀ reading ∈ s.2, reading ≤ (p.now s.1).1

theorem ForwardClock.sustains_since (hclock : p.ForwardClock) (entry : Nat) :
    p.clocked.Sustains (p.Since entry) where
  now s h := by
    refine ⟨by simp [clocked, h.first], fun reading hmem => ?_⟩
    have hle : reading ≤ (p.now s.1).1 := by
      rcases List.mem_append.1 hmem with hmem | hmem
      · exact h.passed reading hmem
      · exact Nat.le_of_eq (List.mem_singleton.1 hmem)
    exact Nat.le_trans hle (hclock.now s.1)
  call objects limit s h :=
    ⟨h.first, fun reading hmem =>
      Nat.le_trans (h.passed reading hmem) (hclock.call objects limit s.1)⟩

variable {kept : σ × List Nat → Prop} (hkept : p.clocked.Sustains kept)
include hkept

/-- What a reading tells of a deadline, it shows. -/
theorem reading_shown {deadline : Deadline} {f : Nat → α} {tells : α → Prop}
    (h : ∀ reading, tells (f reading) → deadline.isPast reading = true) :
    (Action.modifyGet p.clocked.now >>= fun reading => pure (f reading)).Hoare kept fun ending s =>
      ∃ value, ending = .returned value ∧ kept s ∧ (tells value → deadline.Shown s.2) := by
  intro s hs
  refine ⟨_, rfl, hkept.now s hs, fun hvalue => ⟨(p.now s.1).1, ?_, h _ hvalue⟩⟩
  exact List.mem_append_right _ (List.mem_singleton_self _)

/-- If nothing is left, the reading shows that the deadline has come. -/
theorem left_shown (deadline : Deadline) :
    (p.clocked.left deadline).Hoare kept fun ending s =>
      ∃ remaining, ending = .returned remaining ∧ kept s ∧
        (remaining = 0 → deadline.Shown s.2) := by
  obtain ⟨_ | moment⟩ := deadline
  · exact .pure fun s h => ⟨-1, rfl, h, nofun⟩
  · exact reading_shown hkept fun _ => Deadline.remaining_eq_zero_iff.1

theorem isOver_shown (deadline : Deadline) :
    (p.clocked.isOver deadline).Hoare kept fun ending s =>
      ∃ isLate, ending = .returned isLate ∧ kept s ∧ (isLate = true → deadline.Shown s.2) := by
  obtain ⟨_ | moment⟩ := deadline
  · exact .pure fun s h => ⟨false, rfl, h, nofun⟩
  · exact reading_shown hkept fun _ => id

/-- What follows an attempt that found nothing: the wait is over once the deadline has come, or there is
another attempt. -/
theorem unlessOver_shown {deadline : Deadline} {remaining : Int} {nothing : α}
    {again : Action (σ × List Nat) α}
    (hagain : again.Hoare kept fun ending s =>
      kept s ∧ (ending = .returned nothing → deadline.Shown s.2)) :
    (p.clocked.isOver deadline >>= fun isLate =>
        if isLate ∨ remaining = 0 then pure nothing else again).Hoare
      (fun s => kept s ∧ (remaining = 0 → deadline.Shown s.2))
      fun ending s => kept s ∧ (ending = .returned nothing → deadline.Shown s.2) := by
  have hboth := hkept.and ((p.sustains_shown deadline).given (remaining = 0))
  refine .bind_returned (isOver_shown hboth deadline) fun isLate => ?_
  split
  · next hover =>
    exact .pure fun s ⟨⟨h, hleft⟩, hlate⟩ => ⟨h, fun _ => hover.elim hlate hleft⟩
  · exact hagain.strengthen fun _ h => h.1.1

/-- Attempts that end with nothing have shown that the deadline has come. -/
theorem attempts_shown (hdefinite : p.Definite) (patience : Nat) (objects : List Waitable)
    (slice : Int) (deadline : Deadline) (tries : Nat) :
    (p.clocked.attempts patience objects slice deadline tries).Hoare kept fun ending s =>
      kept s ∧ (ending = .returned [] → deadline.Shown s.2) := by
  induction tries with
  | zero => exact .wait fun _ h => ⟨h, nofun⟩
  | succ more ih =>
    refine .bind_returned (left_shown hkept deadline) fun remaining => ?_
    have hboth := hkept.and ((p.sustains_shown deadline).given (remaining = 0))
    refine .bind (hboth.attempt (fun _ _ s => hdefinite _ _ s.1) patience objects remaining slice)
      (fun answer => ?_) (fun _ _ h => ⟨h.1.1, nofun⟩) fun _ h => ⟨h.1.1, nofun⟩
    cases answer with
    | ready places =>
      refine .pure fun s h => ⟨h.1.1, fun heq => ?_⟩
      cases heq
      exact absurd rfl h.2
    | timedOut => exact (unlessOver_shown hkept ih).strengthen fun _ h => h.1
    | interrupted => exact (unlessOver_shown hkept ih).strengthen fun _ h => h.1

end Primitive

/-! ### Whole waits -/

namespace NativeWait

variable {p : NativeWait σ}

theorem outputAttempts_shown {kept : σ × List Nat → Prop} (hkept : p.toPrimitive.clocked.Sustains kept)
    (houtput : ∀ fd limit, (p.clocked.output fd limit).Hoare kept fun _ => kept) (fd : Int)
    (deadline : Deadline) (tries : Nat) :
    (p.clocked.outputAttempts fd deadline tries).Hoare kept fun ending s =>
      kept s ∧ (ending = .returned false → deadline.Shown s.2) := by
  induction tries with
  | zero => exact .wait fun _ h => ⟨h, nofun⟩
  | succ more ih =>
    refine .bind_returned (Primitive.left_shown hkept deadline) fun remaining => ?_
    have hcall : (p.clocked.output fd remaining).Hoare
        (fun s => kept s ∧ (remaining = 0 → deadline.Shown s.2))
        fun _ s => kept s ∧ (remaining = 0 → deadline.Shown s.2) :=
      fun s h => ⟨houtput fd remaining s h.1, h.2⟩
    refine .bind hcall (fun answer => ?_) (fun _ _ h => ⟨h.1, nofun⟩) fun _ h => ⟨h.1, nofun⟩
    cases answer with
    | ready places => exact .pure fun s h => ⟨h.1, nofun⟩
    | timedOut => exact Primitive.unlessOver_shown hkept ih
    | interrupted => exact Primitive.unlessOver_shown hkept ih

/-- What was read while a wait ran out of time: the limit is finite, the clock was read when the wait
began, some reading is no earlier than the limit later, and neither is the clock in the end. -/
structure Expired (p : NativeWait σ) (limit : Int) (state : σ) (after : σ × List Nat) : Prop where
  finite : 0 ≤ limit
  entry : after.2.head? = some (p.now state).1
  reached : ∃ reading ∈ after.2, (p.now state).1 + limit.toNat * Deadline.perMilli ≤ reading
  passed : (p.now state).1 + limit.toNat * Deadline.perMilli ≤ (p.now after.1).1

/-- Whatever only ends with nothing once its deadline was shown to have come, has expired when it
does. -/
theorem expired_of_shown (hclock : p.ForwardClock) {body : Deadline → Action (σ × List Nat) α}
    {nothing : α} (limit : Int) (state : σ)
    (hbody : ∀ deadline kept, p.toPrimitive.clocked.Sustains kept →
      (∀ fd limit, (p.clocked.output fd limit).Hoare kept fun _ => kept) →
      (body deadline).Hoare kept fun ending s =>
        kept s ∧ (ending = .returned nothing → deadline.Shown s.2))
    (h : ((p.clocked.begin limit >>= body).run (state, [])).ending = .returned nothing) :
    p.Expired limit state ((p.clocked.begin limit >>= body).run (state, [])).state := by
  by_cases hlimit : limit < 0
  · -- A deadline that never comes is not shown to have come.
    have hshown := hbody ⟨none⟩ (fun _ => True) ⟨fun _ _ => trivial, fun _ _ _ _ => trivial⟩
      (fun _ _ _ _ => trivial) (state, []) trivial
    have hrun : (p.clocked.begin limit).run (state, []) = ⟨.returned ⟨none⟩, (state, []), []⟩ := by
      simp [Primitive.begin, hlimit]
    rw [Action.run_bind_returned hrun] at h
    obtain ⟨reading, -, hpast⟩ := hshown.2 h
    cases hpast
  · have hsince : p.Since (p.now state).1 ((p.now state).2, [(p.now state).1]) := by
      refine ⟨rfl, fun reading hmem => ?_⟩
      rw [List.mem_singleton.1 hmem]
      exact hclock.now state
    have houtput (fd limit) : (p.clocked.output fd limit).Hoare (p.Since (p.now state).1)
        fun _ => p.Since (p.now state).1 := fun s h =>
      ⟨h.first, fun reading hmem =>
        Nat.le_trans (h.passed reading hmem) (hclock.output fd limit s.1)⟩
    have hshown := hbody (.ofLimit limit (p.now state).1) _ (hclock.sustains_since _) houtput _ hsince
    have hrun : (p.clocked.begin limit).run (state, []) =
        ⟨.returned (.ofLimit limit (p.now state).1), ((p.now state).2, [(p.now state).1]), []⟩ := by
      simp only [Primitive.begin, if_neg hlimit]
      rfl
    rw [Action.run_bind_returned hrun] at h ⊢
    obtain ⟨hsince, hshown⟩ := hshown
    obtain ⟨reading, hmem, hpast⟩ := hshown h
    obtain ⟨hfinite, hle⟩ := Deadline.isPast_ofLimit.1 hpast
    exact ⟨hfinite, hsince.first, ⟨reading, hmem, hle⟩,
      Nat.le_trans hle (hsince.passed reading hmem)⟩

/-- A wait for objects comes back with nothing, and a wait for room without room, only when the limit
is finite and the clock has shown that it has run out. The primitive may answer early or late and may
be cut short at any time, if only its clock does not go back and it never says that no place is
ready. -/
theorem nothing_only_when_expired (hclock : p.ForwardClock) (hdefinite : p.Definite) (limit : Int)
    (state : σ) :
    (∀ objects slice, ((p.waitAll objects limit slice).run state).ending = .returned [] →
        p.Expired limit state ((p.clocked.waitAll objects limit slice).run (state, [])).state) ∧
      ∀ target, ((p.writable target limit).run state).ending = .returned false →
        p.Expired limit state ((p.clocked.writable target limit).run (state, [])).state := by
  refine ⟨fun objects slice h => ?_, fun target h => ?_⟩
  · have hmirror := p.clocked_mirrors.waitAll objects limit slice (state, [])
    rw [← congrArg Outcome.ending hmirror] at h
    exact expired_of_shown hclock limit state
      (fun deadline kept hkept _ => Primitive.attempts_shown hkept hdefinite _ _ _ deadline _) h
  · have hmirror := p.clocked_mirrors.writable target limit (state, [])
    rw [← congrArg Outcome.ending hmirror] at h
    cases target with
    | handle number => cases h
    | fd number =>
      by_cases hneg : number < 0
      · simp only [writable, if_pos hneg] at h
        cases h
      · simp only [writable, if_neg hneg] at h ⊢
        exact expired_of_shown hclock limit state
          (fun deadline kept hkept houtput s =>
            outputAttempts_shown hkept houtput number deadline _ s) h

/-- Nothing is ever ready. Each call takes as long as a list says, in nanoseconds, and may be cut
short; after the list, calls take as long as they may. Reading the clock takes a nanosecond. -/
def drowsy (limit : Option Nat) : NativeWait (Nat × List (Nat × Bool)) :=
  let call (limit : Int) : Action (Nat × List (Nat × Bool)) Readiness := fun (clock, naps) =>
    match naps with
    | [] => ⟨.returned .timedOut, (clock + limit.toNat * Deadline.perMilli, []), []⟩
    | (length, isCut) :: rest =>
      ⟨.returned (if isCut then .interrupted else .timedOut), (clock + length, rest), []⟩
  { limit := limit
    now := fun (clock, naps) => (clock, clock + 1, naps)
    sleep := fun ms (clock, naps) => (clock + ms * Deadline.perMilli, naps)
    call := fun _ => call
    patience := fun limit (_, naps) => naps.length + limit.toNat + 1
    output := fun _ => call }

theorem drowsy_forwardClock (limit : Option Nat) : (drowsy limit).ForwardClock where
  now _ := Nat.le_succ _
  call _ _ state := by
    obtain ⟨clock, _ | ⟨nap, rest⟩⟩ := state
    · exact Nat.le_add_right _ _
    · exact Nat.le_add_right _ _
  output _ _ state := by
    obtain ⟨clock, _ | ⟨nap, rest⟩⟩ := state
    · exact Nat.le_add_right _ _
    · exact Nat.le_add_right _ _

theorem drowsy_definite (limit : Option Nat) : (drowsy limit).Definite := by
  intro _ _ ⟨clock, naps⟩
  match naps with
  | [] => nofun
  | (_, true) :: _ => nofun
  | (_, false) :: _ => nofun

/-- Three objects in chunks of two, with early answers and a signal in between. -/
theorem nothing_only_when_expired_drowsy :
    let p := drowsy (some 2)
    let state := (7, [(0, false), (0, false), (300000, false), (0, false), (900000, true)])
    let objects : List Waitable := [.handle 1, .handle 2, .handle 3]
    p.ForwardClock ∧ p.Definite ∧
      (((p.waitAll objects 2 1).run state).ending = .returned [] ∧
        p.Expired 2 state ((p.clocked.waitAll objects 2 1).run (state, [])).state) ∧
      ((p.writable (.fd 3) 2).run state).ending = .returned false ∧
        p.Expired 2 state ((p.clocked.writable (.fd 3) 2).run (state, [])).state := by
  intro p state objects
  have hobjects : ((p.waitAll objects 2 1).run state).ending = .returned [] := by decide +kernel
  have hroom : ((p.writable (.fd 3) 2).run state).ending = .returned false := by decide +kernel
  have hall := nothing_only_when_expired (drowsy_forwardClock (some 2)) (drowsy_definite (some 2)) 2 state
  exact ⟨drowsy_forwardClock _, drowsy_definite _, ⟨hobjects, hall.1 objects 1 hobjects⟩, hroom,
    hall.2 _ hroom⟩

end NativeWait

end Hotplug
