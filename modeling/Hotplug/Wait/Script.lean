import Hotplug.Wait.Engine
/-!
# Scripted wait primitives

A primitive whose answers are given beforehand, and which notes what it was asked. Its clock stands
still.

## Main definitions

* `Hotplug.WaitScript`, `Hotplug.WaitScript.primitive`
-/

namespace Hotplug

/-- One question to a primitive. -/
structure WaitCall where
  objects : List Waitable
  /-- The limit, in milliseconds. -/
  limit : Int
  deriving DecidableEq, Repr

/-- Answers given beforehand, and the questions so far. -/
structure WaitScript where
  /-- The answers left, next one first. -/
  answers : List (Except Failure Readiness)
  /-- The questions so far, oldest first. -/
  calls : List WaitCall := []

namespace WaitScript

/-- There is no answer left. -/
def exhausted : Failure :=
  .system "script exhausted"

/-- Takes the next answer. -/
def call (objects : List Waitable) (limit : Int) : Action WaitScript Readiness := do
  let answers := (← Action.get).answers
  Action.modify fun s =>
    { s with answers := s.answers.drop 1, calls := s.calls ++ [⟨objects, limit⟩] }
  match answers with
  | [] => Action.fail exhausted
  | answer :: _ => Action.require answer

/-- The primitive that answers from a script. -/
def primitive (limit : Option Nat) : Primitive WaitScript where
  limit := limit
  now := fun s => (0, s)
  sleep := fun _ s => s
  call := call
  patience := fun _ s => s.answers.length + 1

end WaitScript

end Hotplug
