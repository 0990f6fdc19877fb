import Hotplug.Wait.Engine
/-!
# Simulations

An action mirrors another if, seen through a view of its states, it does what the other does: it ends
in the same way, leaves the same state and says the same. Composed actions mirror each other as their
parts do, so whatever is built on a primitive can be watched from outside without being disturbed.

## Main definitions

* `Hotplug.Action.Mirrors`, `Hotplug.Primitive.Mirrors`, `Hotplug.NativeWait.Mirrors`

## Main statements

* `Hotplug.Action.Mirrors.bind`: a composition mirrors a composition of mirrored parts.
* `Hotplug.Primitive.Mirrors.waitAll`: a wait on a primitive mirrors the wait on the primitive that it
  mirrors.
* `Hotplug.NativeWait.Mirrors.writable`: the same for room for output.
-/

namespace Hotplug

variable {σ τ κ ι α β : Type} [Handed κ] [Handed ι] {view : τ → σ}

/-- An outcome with its state seen through a view. -/
def Outcome.through (view : τ → σ) (out : Outcome τ α) : Outcome σ α :=
  ⟨out.ending, view out.state, out.reports⟩

/-- Seen through a view, the first action does what the second does. -/
def Action.Mirrors (view : τ → σ) (action : Action τ α) (image : Action σ α) : Prop :=
  ∀ state, (action.run state).through view = image.run (view state)

namespace Action.Mirrors

theorem pure (value : α) : Mirrors view (pure value) (pure value) :=
  fun _ => rfl

theorem wait : Mirrors view (Action.wait : Action τ α) Action.wait :=
  fun _ => rfl

theorem modifyGet {f : τ → α × τ} {g : σ → α × σ}
    (h : ∀ state, (f state).1 = (g (view state)).1 ∧ view (f state).2 = (g (view state)).2) :
    Mirrors view (Action.modifyGet f) (Action.modifyGet g) := by
  intro state
  change (⟨.returned (f state).1, view (f state).2, []⟩ : Outcome σ α) =
    ⟨.returned (g (view state)).1, (g (view state)).2, []⟩
  rw [(h state).1, (h state).2]

/-- A composition mirrors a composition of mirrored parts. -/
theorem bind {first : Action τ α} {first' : Action σ α} {next : α → Action τ β}
    {next' : α → Action σ β} (h : Mirrors view first first')
    (hnext : ∀ value, Mirrors view (next value) (next' value)) :
    Mirrors view (first >>= next) (first' >>= next') := by
  intro state
  rw [run_bind, run_bind, ← h state]
  rcases first.run state with ⟨value | failure | _, left, reports⟩
  · have hvalue := hnext value left
    simp only [Outcome.through, Outcome.andThen] at hvalue ⊢
    rw [show next' value (view left) = _ from hvalue.symm]
    rfl
  · rfl
  · rfl

end Action.Mirrors

/-- Seen through a view, the first primitive does what the second does, whatever either is handed of a
chunk. -/
structure Primitive.Mirrors (view : τ → σ) (p : Primitive τ κ) (q : Primitive σ ι) : Prop where
  limit : p.limit = q.limit
  now : ∀ state, (p.now state).1 = (q.now (view state)).1 ∧
    view (p.now state).2 = (q.now (view state)).2
  ask : ∀ chunk limit, Action.Mirrors view (p.ask chunk limit) (q.ask chunk limit)
  patience : ∀ limit state, p.patience limit state = q.patience limit (view state)

namespace Primitive.Mirrors

variable {p : Primitive τ κ} {q : Primitive σ ι}

theorem begin (h : Mirrors view p q) (limit : Int) :
    Action.Mirrors view (p.begin limit) (q.begin limit) := by
  unfold Primitive.begin
  split
  · exact .pure _
  · exact .bind (.modifyGet h.now) fun _ => .pure _

theorem left (h : Mirrors view p q) (deadline : Deadline) :
    Action.Mirrors view (p.left deadline) (q.left deadline) := by
  unfold Primitive.left
  split
  · exact .bind (.modifyGet h.now) fun _ => .pure _
  · exact .pure _

theorem isOver (h : Mirrors view p q) (deadline : Deadline) :
    Action.Mirrors view (p.isOver deadline) (q.isOver deadline) := by
  unfold Primitive.isOver
  split
  · exact .bind (.modifyGet h.now) fun _ => .pure _
  · exact .pure _

theorem sweep (h : Mirrors view p q) (chunks : List Chunk) (found : List Nat) :
    Action.Mirrors view (Chunked.sweep p chunks found) (Chunked.sweep q chunks found) := by
  induction chunks generalizing found with
  | nil => exact .pure _
  | cons chunk rest ih =>
    refine .bind (h.ask chunk 0) fun answer => ?_
    cases answer with
    | ready places => exact ih _
    | timedOut => exact ih _
    | interrupted => exact .pure _

theorem rounds (h : Mirrors view p q) (chunks : List Chunk) (slice : Int) (deadline : Deadline)
    (patience turn : Nat) (carried : List Nat) :
    Action.Mirrors view (Chunked.rounds p chunks slice deadline patience turn carried)
      (Chunked.rounds q chunks slice deadline patience turn carried) := by
  induction patience generalizing turn carried with
  | zero => exact .wait
  | succ more ih =>
    refine .bind (h.sweep chunks carried) fun found => ?_
    match found with
    | none => exact .pure _
    | some (place :: places) => exact .pure _
    | some [] =>
      refine .bind (h.left deadline) fun remaining => ?_
      split
      · exact .pure _
      · split
        · exact .pure _
        · refine .bind (h.ask _ _) fun answer => ?_
          cases answer with
          | ready places => exact ih _ _
          | timedOut => exact ih _ _
          | interrupted => exact .pure _

theorem attempt (h : Mirrors view p q) (patience : Nat) (objects : List Waitable)
    (remaining slice : Int) :
    Action.Mirrors view (p.attempt patience objects remaining slice)
      (q.attempt patience objects remaining slice) := by
  unfold Primitive.attempt
  rw [h.limit]
  split
  · split
    · exact .bind (h.begin _) fun deadline => h.rounds _ _ deadline _ _ _
    · exact h.ask _ _
  · exact h.ask _ _

/-- Running out of time and a signal go on in the same way. -/
theorem unlessOver (h : Mirrors view p q) (deadline : Deadline) (remaining : Int) (nothing : α)
    {again : Action τ α} {same : Action σ α} (hagain : Action.Mirrors view again same) :
    Action.Mirrors view
      (p.isOver deadline >>= fun isLate => if isLate ∨ remaining = 0 then pure nothing else again)
      (q.isOver deadline >>= fun isLate => if isLate ∨ remaining = 0 then pure nothing else same) := by
  refine .bind (h.isOver deadline) fun isLate => ?_
  split
  · exact .pure _
  · exact hagain

theorem attempts (h : Mirrors view p q) (patience : Nat) (objects : List Waitable) (slice : Int)
    (deadline : Deadline) (tries : Nat) :
    Action.Mirrors view (p.attempts patience objects slice deadline tries)
      (q.attempts patience objects slice deadline tries) := by
  induction tries with
  | zero => exact .wait
  | succ more ih =>
    refine .bind (h.left deadline) fun remaining => .bind (h.attempt _ _ _ _) fun answer => ?_
    cases answer with
    | ready places => exact .pure _
    | timedOut => exact h.unlessOver deadline remaining [] ih
    | interrupted => exact h.unlessOver deadline remaining [] ih

/-- A wait on a primitive mirrors the wait on the primitive that it mirrors. -/
theorem waitAll (h : Mirrors view p q) (objects : List Waitable) (limit slice : Int) :
    Action.Mirrors view (p.waitAll objects limit slice) (q.waitAll objects limit slice) := by
  intro state
  change ((p.waitWithin (p.patience limit state) objects limit slice).run state).through view = _
  rw [h.patience]
  exact Action.Mirrors.bind (h.begin limit) (fun deadline => h.attempts _ _ _ deadline _) state

end Primitive.Mirrors

/-- Seen through a view, the first primitive does what the second does, waiting for output included. -/
structure NativeWait.Mirrors (view : τ → σ) (p : NativeWait τ) (q : NativeWait σ) : Prop
    extends Primitive.Mirrors view p.toPrimitive q.toPrimitive where
  output : ∀ fd limit, Action.Mirrors view (p.output fd limit) (q.output fd limit)

namespace NativeWait.Mirrors

variable {p : NativeWait τ} {q : NativeWait σ}

theorem outputAttempts (h : Mirrors view p q) (fd : Int) (deadline : Deadline) (tries : Nat) :
    Action.Mirrors view (p.outputAttempts fd deadline tries) (q.outputAttempts fd deadline tries) := by
  induction tries with
  | zero => exact .wait
  | succ more ih =>
    refine .bind (h.left deadline) fun remaining => .bind (h.output fd remaining) fun answer => ?_
    cases answer with
    | ready places => exact .pure _
    | timedOut => exact h.unlessOver deadline remaining false ih
    | interrupted => exact h.unlessOver deadline remaining false ih

/-- A wait for room for output mirrors the wait on the primitive that is mirrored. -/
theorem writable (h : Mirrors view p q) (target : Waitable) (limit : Int) :
    Action.Mirrors view (p.writable target limit) (q.writable target limit) := by
  cases target with
  | handle number => exact fun _ => rfl
  | fd number =>
    by_cases hneg : number < 0
    · simp only [NativeWait.writable, if_pos hneg]
      exact fun _ => rfl
    · simp only [NativeWait.writable, if_neg hneg]
      refine .bind (h.begin limit) fun deadline state => ?_
      change ((p.outputAttempts number deadline (p.patience limit state)).run state).through view = _
      rw [h.patience]
      exact h.outputAttempts number deadline _ state

end NativeWait.Mirrors

end Hotplug
