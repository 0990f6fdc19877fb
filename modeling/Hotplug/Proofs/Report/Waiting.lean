import Hotplug.Platform
import Hotplug.Proofs.Report.Candid
import Hotplug.Wait.DescriptorSet
import Hotplug.Wait.Script
/-!
# Waiting is candid

If the call of a primitive is candid, so is everything that is built on it: a wait in chunks, a wait
that begins again after signals, and the poll of a set.

## Main statements

* `Hotplug.Primitive.candid_waitAll`, `Hotplug.DescriptorSet.candid_pollWith`
* `Hotplug.NativeWait.candid_readable`, `Hotplug.NativeWait.candid_writable`
-/

namespace Hotplug

open Hotplug.Action

variable {σ τ α : Type}

/-- The call of the primitive is candid, whatever it is asked. -/
def Primitive.Candid (p : Primitive σ) : Prop :=
  ∀ objects limit, (p.call objects limit).Candid

/-- Both calls of the primitive are candid, whatever they are asked. -/
structure NativeWait.Candid (p : NativeWait σ) : Prop where
  call : p.toPrimitive.Candid
  output : ∀ fd limit, (p.output fd limit).Candid

/-! ### Clocks -/

namespace Primitive

theorem Timing.candid {p : Primitive σ} {action : Action σ α} (h : p.Timing action) :
    action.Candid := by
  cases h with
  | given value => exact .pure
  | read f => exact .bind .modifyGet fun _ => .pure

/-- How a round of waiting ends that found nothing: time is up, or another one follows. -/
theorem candid_unlessOver (p : Primitive σ) (deadline : Deadline) (remaining : Int) {value : α}
    {again : Action σ α} (h : again.Candid) :
    (do
      let isLate ← p.isOver deadline
      if isLate ∨ remaining = 0 then return value else again : Action σ α).Candid :=
  .bind (p.timing_isOver deadline).candid fun _ => .ite .pure h

end Primitive

/-! ### Chunks -/

namespace Chunked

variable {p : Primitive σ}

theorem candid_sweep (h : p.Candid) (chunks : List Chunk) (found : List Nat) :
    (sweep p chunks found).Candid := by
  induction chunks generalizing found with
  | nil => exact .pure
  | cons chunk rest ih =>
    refine .bind (h chunk.objects 0) fun
      | .ready _ => ih _
      | .timedOut => ih _
      | .interrupted => .pure

theorem candid_rounds (h : p.Candid) (chunks : List Chunk) (slice : Int) (deadline : Deadline)
    (more turn : Nat) (carried : List Nat) :
    (rounds p chunks slice deadline more turn carried).Candid := by
  induction more generalizing turn carried with
  | zero => exact .wait
  | succ more ih =>
    -- A round sweeps, looks at the clock, and waits on one chunk before the next round.
    unfold rounds
    refine .bind (candid_sweep h chunks carried) fun found => ?_
    split
    · exact .pure
    · exact .pure
    refine .bind (p.timing_left deadline).candid fun remaining => ?_
    split
    · exact .pure
    split
    · exact .pure
    · refine .bind (h _ _) fun
        | .ready _ => ih _ _
        | .timedOut => ih _ _
        | .interrupted => .pure

theorem candid_wait (h : p.Candid) (patience : Nat) (objects : List Waitable) (size : Nat)
    (limit slice : Int) : (wait p patience objects size limit slice).Candid :=
  .bind (p.timing_begin limit).candid fun _ => candid_rounds h _ _ _ _ _ _

end Chunked

/-! ### Whole waits -/

namespace Primitive

variable {p : Primitive σ}

theorem candid_attempt (h : p.Candid) (patience : Nat) (objects : List Waitable)
    (remaining slice : Int) : (p.attempt patience objects remaining slice).Candid := by
  unfold attempt
  split
  · split
    · exact Chunked.candid_wait h _ _ _ _ _
    · exact h _ _
  · exact h _ _

theorem candid_attempts (h : p.Candid) (patience : Nat) (objects : List Waitable) (slice : Int)
    (deadline : Deadline) (more : Nat) :
    (p.attempts patience objects slice deadline more).Candid := by
  induction more with
  | zero => exact .wait
  | succ more ih =>
    unfold attempts
    refine .bind (p.timing_left deadline).candid fun remaining =>
      .bind (candid_attempt h _ _ _ _) fun
        | .ready _ => .pure
        | .timedOut => p.candid_unlessOver deadline remaining ih
        | .interrupted => p.candid_unlessOver deadline remaining ih

theorem candid_waitWithin (h : p.Candid) (patience : Nat) (objects : List Waitable)
    (limit slice : Int) : (p.waitWithin patience objects limit slice).Candid :=
  .bind (p.timing_begin limit).candid fun _ => candid_attempts h _ _ _ _ _

theorem candid_waitAll (h : p.Candid) (objects : List Waitable) (limit slice : Int) :
    (p.waitAll objects limit slice).Candid :=
  .of_state (f := fun state => p.waitWithin (p.patience limit state) objects limit slice)
    fun _ => candid_waitWithin h _ _ _ _

theorem Candid.limited (h : p.Candid) (limit : Nat) : (p.limited limit).Candid :=
  fun objects timeout =>
    (h objects timeout).on Prod.fst fun s whole => (s, max whole.2 objects.length)

end Primitive

theorem DescriptorSet.candid_pollWith {p : Primitive σ} (h : p.Candid) (set : DescriptorSet)
    (limit : Int) : (set.pollWith p limit).Candid :=
  .ite (.ite .fail (.bind .modify fun _ => .pure))
    (.bind (Primitive.candid_waitAll h _ _ _) fun _ => .pure)

namespace NativeWait

variable {p : NativeWait σ}

theorem candid_readable (h : p.Candid) (target : Waitable) (limit : Int) :
    (p.readable target limit).Candid :=
  .ite .fail (.bind (Primitive.candid_waitAll h.call _ _ _) fun _ => .pure)

theorem candid_outputAttempts (h : p.Candid) (fd : Int) (deadline : Deadline) (more : Nat) :
    (p.outputAttempts fd deadline more).Candid := by
  induction more with
  | zero => exact .wait
  | succ more ih =>
    unfold outputAttempts
    refine .bind (p.timing_left deadline).candid fun remaining =>
      .bind (h.output fd remaining) fun
        | .ready _ => .pure
        | .timedOut => p.candid_unlessOver deadline remaining ih
        | .interrupted => p.candid_unlessOver deadline remaining ih

theorem candid_writable (h : p.Candid) (target : Waitable) (limit : Int) :
    (p.writable target limit).Candid := by
  unfold writable
  split
  · exact .fail
  split
  · exact .fail
  · exact .bind (p.timing_begin limit).candid fun deadline =>
      .of_state (f := fun state => p.outputAttempts _ deadline (p.patience limit state))
        fun _ => candid_outputAttempts h _ _ _

theorem Candid.on (h : p.Candid) (part : τ → σ) (put : σ → τ → τ) : (p.on part put).Candid where
  call objects limit := (h.call objects limit).on part put
  output fd limit := (h.output fd limit).on part put

end NativeWait

theorem WaitScript.candid_primitive (limit : Option Nat) : (primitive limit).Candid := by
  intro chunk timeout
  refine .bind .get fun script => .bind .modify fun _ => ?_
  split
  · exact .fail
  · exact .require _

end Hotplug
