import Hotplug.Action
import Hotplug.Wait.Deadline
import Hotplug.Wait.Waitable
/-!
# Wait primitives

The one call of a platform that waits for several objects at once, together with the platform's
clock. Everything that waits is built on a primitive. A primitive is handed objects alone; at which place
of a longer list they stand is known only to whoever asks.

## Main definitions

* `Hotplug.Primitive`: the call, its limit and its clock.
* `Hotplug.Handed`, `Hotplug.Primitive.ask`: asking about a chunk of objects.
* `Hotplug.Primitive.begin`, `Hotplug.Primitive.left`, `Hotplug.Primitive.isOver`: deadlines on the
  clock of a primitive.
* `Hotplug.Primitive.Timing`: actions that read the clock at most once.
* `Hotplug.NativeWait`: a primitive with a wait for output.
-/

namespace Hotplug

/-- The call of a platform that waits for several objects at once. What a call is handed is of type `κ`:
the objects, unless somebody stands in between. -/
structure Primitive (σ : Type) (κ : Type := List Waitable) where
  /-- How many objects one call takes; `none` if any number. -/
  limit : Option Nat
  /-- Reads the clock, in nanoseconds. -/
  now : σ → Nat × σ
  /-- Lets milliseconds pass. -/
  sleep : Nat → σ → σ
  /-- Waits until one of the objects is ready, or a limit in milliseconds runs out; a negative limit
  never does. -/
  call : κ → Int → Action σ Readiness
  /-- More rounds than any wait with this limit takes from this state, if it ends at all. -/
  patience : Int → σ → Nat

/-- What of a chunk is handed over to a call. -/
class Handed (κ : Type) where
  /-- The part that is handed over. -/
  part : Chunk → κ

/-- The place of a chunk stays behind. -/
instance : Handed (List Waitable) where
  part := Chunk.objects

namespace Primitive

variable {σ κ : Type}

/-- Asks about a chunk. -/
def ask [Handed κ] (p : Primitive σ κ) (chunk : Chunk) (limit : Int) : Action σ Readiness :=
  p.call (Handed.part chunk) limit

/-- The deadline of a limit that begins to run now. Only a limit that runs out reads the clock. -/
def begin (p : Primitive σ κ) (limit : Int) : Action σ Deadline := do
  if limit < 0 then return ⟨none⟩
  else return .ofLimit limit (← Action.modifyGet p.now)

/-- Milliseconds left until a deadline. -/
def left (p : Primitive σ κ) (deadline : Deadline) : Action σ Int := do
  if deadline.isFinite then return deadline.remaining (← Action.modifyGet p.now)
  else return -1

/-- Whether a deadline has come. -/
def isOver (p : Primitive σ κ) (deadline : Deadline) : Action σ Bool := do
  if deadline.isFinite then return deadline.isPast (← Action.modifyGet p.now)
  else return false

/-- What an action returns comes from one reading of the clock, or from none. -/
inductive Timing (p : Primitive σ κ) {α : Type} : Action σ α → Prop
  | given (value : α) : p.Timing (pure value)
  | read (f : Nat → α) : p.Timing (Action.modifyGet p.now >>= fun reading => pure (f reading))

theorem timing_begin (p : Primitive σ κ) (limit : Int) : p.Timing (p.begin limit) := by
  unfold begin
  split
  · exact .given _
  · exact .read _

theorem timing_left (p : Primitive σ κ) (deadline : Deadline) : p.Timing (p.left deadline) := by
  unfold left
  split
  · exact .read _
  · exact .given _

theorem timing_isOver (p : Primitive σ κ) (deadline : Deadline) : p.Timing (p.isOver deadline) := by
  unfold isOver
  split
  · exact .read _
  · exact .given _

end Primitive

/-- A primitive together with the call that waits for room for output on one descriptor. -/
structure NativeWait (σ : Type) extends Primitive σ where
  /-- Waits until a descriptor takes output, or a limit in milliseconds runs out. -/
  output : Int → Int → Action σ Readiness

end Hotplug
