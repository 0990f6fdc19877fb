import Hotplug.Wait.Engine
/-!
# Descriptor sets

Objects to be waited for together, under numbers that the caller chooses. A set is bounded and keeps
the order in which its entries were added.

## Main definitions

* `Hotplug.DescriptorSet`, with `add`, `remove`, `clear`, `get?`
* `Hotplug.DescriptorSet.pollWith`: the numbers of the entries that are ready.
-/

namespace Hotplug

/-- An object under a number. -/
structure DescriptorSet.Entry where
  /-- The number. -/
  id : UInt32
  /-- The object. -/
  target : Waitable
  deriving DecidableEq, Repr

/-- Objects to be waited for together. -/
structure DescriptorSet where
  /-- The entries, in the order in which they were added. -/
  entries : List DescriptorSet.Entry := []
  /-- How many entries there may be. -/
  capacity : Nat := 256
  /-- How long a wait stays with one chunk, in milliseconds. -/
  slice : Int := standardSlice
  deriving DecidableEq, Repr

namespace DescriptorSet

/-- Why an object is not added. -/
inductive Refusal
  /-- The set is full. -/
  | full (capacity : Nat)
  /-- The number is taken. -/
  | taken (id : UInt32)
  /-- The value cannot name a live object. -/
  | notLive (target : Waitable)
  deriving DecidableEq, Repr

namespace Refusal

/-- What to tell people. -/
def message : Refusal → String
  | full capacity => "Descriptor set is full (capacity " ++ toString capacity ++ ")"
  | taken id => "Descriptor id " ++ toString id ++ " is already in the set"
  | notLive target => "Cannot add invalid " ++ target.text ++ " to descriptor set"

/-- A refused addition is an invalid request. -/
def failure (refusal : Refusal) : Failure :=
  .invalid refusal.message

end Refusal

/-- The numbers in use, in order. -/
def ids (set : DescriptorSet) : List UInt32 :=
  set.entries.map Entry.id

/-- The number of entries. -/
def size (set : DescriptorSet) : Nat :=
  set.entries.length

/-- Whether there are no entries. -/
def isEmpty (set : DescriptorSet) : Bool :=
  set.entries.isEmpty

/-- Whether a number is in use. -/
def contains (set : DescriptorSet) (id : UInt32) : Bool :=
  set.entries.any (·.id == id)

/-- The object under a number. -/
def get? (set : DescriptorSet) (id : UInt32) : Option Waitable :=
  (set.entries.find? (·.id == id)).map Entry.target

/-- Adds an object under a number. -/
def add (set : DescriptorSet) (id : UInt32) (target : Waitable) : Except Refusal DescriptorSet :=
  if set.capacity ≤ set.size then .error (.full set.capacity)
  else if set.contains id then .error (.taken id)
  else if !target.isValid then .error (.notLive target)
  else .ok { set with entries := set.entries ++ [⟨id, target⟩] }

/-- Takes the entry with a number out. Answers whether there are fewer entries then. -/
def remove (set : DescriptorSet) (id : UInt32) : Bool × DescriptorSet :=
  let entries := set.entries.filter (·.id != id)
  (entries.length != set.entries.length, { set with entries })

/-- Takes every entry out. -/
def clear (set : DescriptorSet) : DescriptorSet :=
  { set with entries := [] }

/-- The objects, in order. -/
def targets (set : DescriptorSet) : List Waitable :=
  set.entries.map Entry.target

/-- The numbers of the entries at some places. -/
def idsAt (set : DescriptorSet) (places : List Nat) : List UInt32 :=
  places.filterMap fun place => set.entries[place]?.map Entry.id

/-- Nobody waits forever for nothing. -/
def endlessWait : Failure :=
  .invalid "Cannot wait forever on an empty descriptor set"

/-- Waits until an entry is ready or a limit runs out. The numbers of all entries that are ready,
none when time is up. An empty set waits out the limit. -/
def pollWith [Handed κ] (set : DescriptorSet) (p : Primitive σ κ) (limit : Int) :
    Action σ (List UInt32) := do
  if set.isEmpty then
    if limit < 0 then Action.fail endlessWait
    else
      Action.modify (p.sleep limit.toNat)
      return []
  else return set.idsAt (← p.waitAll set.targets limit set.slice)

end DescriptorSet

end Hotplug
