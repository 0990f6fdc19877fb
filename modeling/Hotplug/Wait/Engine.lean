import Hotplug.Wait.Chunked
/-!
# Waiting

Waiting for any number of objects, whatever the limit of the primitive, and again after signals and
early returns, until something is ready or the time is up.

## Main definitions

* `Hotplug.Primitive.waitAll`: the places of all objects that are ready; none when time is up.
* `Hotplug.NativeWait.readable`, `Hotplug.NativeWait.writable`: waiting for one object.
-/

namespace Hotplug

/-- How long a wait stays with one chunk unless told otherwise, in milliseconds. -/
def standardSlice : Int := 10

/-- How late a poll whose time is up may return, in milliseconds. -/
def pollTolerance : Nat := 25

/-- Why one object cannot be waited for. -/
inductive WaitRefusal
  /-- The value cannot name a live object. -/
  | notLive (target : Waitable)
  /-- Only descriptors take output. -/
  | noOutput (target : Waitable)
  /-- Descriptors and kernel handles cannot be waited for together. -/
  | notDescriptor (target : Waitable)
  deriving DecidableEq, Repr

namespace WaitRefusal

/-- What to tell people. -/
def message : WaitRefusal → String
  | notLive target => "cannot wait on invalid " ++ target.text
  | noOutput target => "cannot wait for output on " ++ target.text
  | notDescriptor target => "poll() cannot wait on kernel " ++ target.text

/-- A refused wait is an invalid request. -/
def failure (refusal : WaitRefusal) : Failure :=
  .invalid refusal.message

end WaitRefusal

/-- The descriptors behind some objects, or the failure of the first object that is none. -/
def Waitable.descriptors : List Waitable → Except Failure (List Int)
  | [] => .ok []
  | .fd number :: rest => (descriptors rest).map (number :: ·)
  | .handle number :: _ => .error (WaitRefusal.notDescriptor (.handle number)).failure

namespace Primitive

variable {σ κ : Type} [Handed κ]

/-- One attempt to wait: in chunks if there are more objects than one call takes. -/
def attempt (p : Primitive σ κ) (patience : Nat) (objects : List Waitable) (remaining slice : Int) :
    Action σ Readiness :=
  match p.limit with
  | some limit =>
    if limit < objects.length then Chunked.wait p patience objects limit remaining slice
    else p.ask (.whole objects) remaining
  | none => p.ask (.whole objects) remaining

/-- Attempts until something is ready or the deadline has come, at most so many. -/
def attempts (p : Primitive σ κ) (patience : Nat) (objects : List Waitable) (slice : Int)
    (deadline : Deadline) : Nat → Action σ (List Nat)
  | 0 => Action.wait
  | more + 1 => do
    let remaining ← p.left deadline
    match ← p.attempt patience objects remaining slice with
    | .ready places => return places
    | .timedOut | .interrupted =>
      let isLate ← p.isOver deadline
      if isLate ∨ remaining = 0 then return []
      else p.attempts patience objects slice deadline more

/-- Waits for objects, with an explicit bound on the rounds. -/
def waitWithin (p : Primitive σ κ) (patience : Nat) (objects : List Waitable) (limit slice : Int) :
    Action σ (List Nat) := do
  let deadline ← p.begin limit
  p.attempts patience objects slice deadline patience

/-- Waits until an object is ready or a limit runs out. The places of all ready objects; none when
time is up. -/
def waitAll (p : Primitive σ κ) (objects : List Waitable) (limit slice : Int) :
    Action σ (List Nat) := fun state =>
  p.waitWithin (p.patience limit state) objects limit slice state

end Primitive

namespace NativeWait

variable {σ : Type}

/-- Waits until one object has input, or a limit runs out. -/
def readable (p : NativeWait σ) (target : Waitable) (limit : Int) : Action σ Bool := do
  if !target.isValid then Action.fail (WaitRefusal.notLive target).failure
  else return !(← p.waitAll [target] limit standardSlice).isEmpty

/-- Attempts to wait for output until it has room or the deadline has come. -/
def outputAttempts (p : NativeWait σ) (fd : Int) (deadline : Deadline) : Nat → Action σ Bool
  | 0 => Action.wait
  | more + 1 => do
    let remaining ← p.left deadline
    match ← p.output fd remaining with
    | .ready _ => return true
    | .timedOut | .interrupted =>
      let isLate ← p.isOver deadline
      if isLate ∨ remaining = 0 then return false
      else p.outputAttempts fd deadline more

/-- Waits until one descriptor takes output, or a limit runs out. Errors and hang-ups count as
room, so that the write that follows meets them. -/
def writable (p : NativeWait σ) (target : Waitable) (limit : Int) : Action σ Bool :=
  match target with
  | .handle _ => Action.fail (WaitRefusal.noOutput target).failure
  | .fd fd =>
    if fd < 0 then Action.fail (WaitRefusal.notLive target).failure
    else do
      let deadline ← p.begin limit
      fun state => p.outputAttempts fd deadline (p.patience limit state) state

end NativeWait

end Hotplug
