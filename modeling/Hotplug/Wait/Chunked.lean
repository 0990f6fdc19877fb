import Hotplug.Wait.Primitive
/-!
# Waiting for more objects than one call takes

The objects are cut into chunks. Each round sweeps every chunk without waiting. If nothing is ready,
the round waits on one chunk, the next in turn, for a slice of time at most; what is ready there is
carried into the next sweep, so that an object which says only once that it is ready is not lost.

## Main definitions

* `Hotplug.Chunk.split`
* `Hotplug.sortUnique`: ascending order without repetitions.
* `Hotplug.Chunked.sweep`, `Hotplug.Chunked.rounds`, `Hotplug.Chunked.wait`
-/

namespace Hotplug

/-- Cuts a list into chunks of `size` objects; the last one may be shorter. -/
def Chunk.split (size start : Nat) (objects : List Waitable) : List Chunk :=
  if _h : objects = [] ∨ size = 0 then []
  else ⟨start, objects.take size⟩ :: split size (start + size) (objects.drop size)
  termination_by objects.length
  decreasing_by
    rw [not_or] at _h
    have : 0 < objects.length := List.length_pos_iff.2 _h.1
    rw [List.length_drop]
    omega

/-- Puts a number into a list in ascending order, unless it is there. -/
def insertUnique (n : Nat) : List Nat → List Nat
  | [] => [n]
  | m :: rest =>
    if n < m then n :: m :: rest
    else if n = m then m :: rest
    else m :: insertUnique n rest

/-- The numbers of a list in ascending order, each once. -/
def sortUnique (numbers : List Nat) : List Nat :=
  numbers.foldr insertUnique []

namespace Chunked

variable {σ κ : Type} [Handed κ]

/-- Asks every chunk without waiting, and adds what is ready to what is known to be. `none` if a
signal cut a call short. -/
def sweep (p : Primitive σ κ) : List Chunk → List Nat → Action σ (Option (List Nat))
  | [], found => pure (some found)
  | chunk :: rest, found => do
    match ← p.ask chunk 0 with
    | .ready places => sweep p rest (found ++ chunk.places places)
    | .timedOut => sweep p rest found
    | .interrupted => return none

/-- How long a round waits on its chunk: a slice, or what is left if that is less. -/
def blockFor (remaining slice : Int) : Int :=
  if remaining < 0 then slice else min remaining slice

/-- Rounds of sweeping and waiting, at most so many. Of the turn only the remainder by the number of chunks
counts. So it has no bound here: a counter of 64 bits would come round after more rounds than any wait
takes, and it would name a chunk then as well. -/
def rounds (p : Primitive σ κ) (chunks : List Chunk) (slice : Int) (deadline : Deadline) :
    Nat → Nat → List Nat → Action σ Readiness
  | 0, _, _ => Action.wait
  | more + 1, turn, carried => do
    match ← sweep p chunks carried with
    | none => return .interrupted
    | some (place :: places) => return .ready (sortUnique (place :: places))
    | some [] =>
      let remaining ← p.left deadline
      if remaining = 0 then return .timedOut
      match chunks[turn % chunks.length]? with
      | none => return .timedOut
      | some chunk =>
        match ← p.ask chunk (blockFor remaining slice) with
        | .ready places => rounds p chunks slice deadline more (turn + 1) (chunk.places places)
        | .timedOut => rounds p chunks slice deadline more (turn + 1) []
        | .interrupted => return .interrupted

/-- Waits for objects in chunks of the given size. Size and slice are at least one. -/
def wait (p : Primitive σ κ) (patience : Nat) (objects : List Waitable) (size : Nat)
    (limit slice : Int) : Action σ Readiness := do
  let deadline ← p.begin limit
  rounds p (Chunk.split (max size 1) 0 objects) (max slice 1) deadline patience 0 []

end Chunked

end Hotplug
