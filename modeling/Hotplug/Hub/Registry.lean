import Hotplug.Hub.Records
/-!
# Registries

The devices that a monitor knows: one record for each identity, in the order of identities. Notices
change a registry. An appearance counts if the device passes the filter and its identity is not taken;
a removal takes every interface of the device out and disconnects its record.

## Main definitions

* `Hotplug.Registry`, with `find?`, `insert`, `without`
* `Hotplug.Change`: what a notice changed.
* `Hotplug.Watch.apply`, `Hotplug.Watch.applyAll`: what notices do.
-/

namespace Hotplug

/-- The records of a monitor by identity, in the order of identities. -/
structure Registry where
  /-- Identities with their records, in ascending order. -/
  entries : List (Identity × RecordId) := []
  deriving DecidableEq, Repr

namespace Registry

/-- Puts a record under an identity into a list in ascending order. -/
def put (identity : Identity) (record : RecordId) :
    List (Identity × RecordId) → List (Identity × RecordId)
  | [] => [(identity, record)]
  | entry :: rest =>
    if identity.before entry.1 then (identity, record) :: entry :: rest
    else if identity = entry.1 then (identity, record) :: rest
    else entry :: put identity record rest

/-- The record under an identity. -/
def find? (registry : Registry) (identity : Identity) : Option RecordId :=
  (registry.entries.find? (·.1 = identity)).map (·.2)

/-- Puts a record under an identity. -/
def insert (registry : Registry) (identity : Identity) (record : RecordId) : Registry :=
  ⟨put identity record registry.entries⟩

/-- The records of a device, by interface. -/
def ofKey (registry : Registry) (key : String) : List RecordId :=
  (registry.entries.filter (·.1.key = key)).map (·.2)

/-- The registry without a device. -/
def without (registry : Registry) (key : String) : Registry :=
  ⟨registry.entries.filter (·.1.key ≠ key)⟩

/-- The records, in the order of their identities. -/
def records (registry : Registry) : List RecordId :=
  registry.entries.map (·.2)

/-- How many interfaces there are. -/
def size (registry : Registry) : Nat :=
  registry.entries.length

end Registry

/-- What a notice changed. Whoever holds a change has a reference to its record. -/
inductive Change
  /-- A new record came in. -/
  | added (record : RecordId)
  /-- A record went out. -/
  | removed (record : RecordId)
  deriving DecidableEq, Repr

/-- The record that a change is about. -/
def Change.record : Change → RecordId
  | added record | removed record => record

/-- What a monitor watches: which devices, through which backend, and under which name. -/
structure Watch (ω : Type) where
  /-- The name of the monitor. -/
  monitor : MonitorId
  /-- The backend. -/
  origin : ω
  /-- Which devices are of interest. -/
  filter : Filter

/-- A registry with the records it refers to, among others. -/
structure Roster (ω : Type) where
  registry : Registry
  /-- All records. -/
  records : Records ω

namespace Watch

variable {ω : Type}

/-- Takes an appearance in. The registry and the change each have a reference to the new record. -/
def appear (watch : Watch ω) (roster : Roster ω) (info : Info) : Roster ω × List Change :=
  if watch.filter.passes info ∧ (roster.registry.find? info.identity).isNone then
    let (id, records) := roster.records.create info watch.origin (some watch.monitor)
    (⟨roster.registry.insert info.identity id, records.retain id⟩, [.added id])
  else (roster, [])

/-- Takes a removal in. The references of the registry pass over to the changes. -/
def vanish (roster : Roster ω) (key : String) : Roster ω × List Change :=
  let gone := roster.registry.ofKey key
  (⟨roster.registry.without key, gone.foldl Records.disconnect roster.records⟩,
    gone.map Change.removed)

/-- What a notice does. -/
def apply (watch : Watch ω) (roster : Roster ω) : Notice → Roster ω × List Change
  | .added info => watch.appear roster info
  | .removed key => vanish roster key

/-- What notices do, in order. -/
def applyAll (watch : Watch ω) (roster : Roster ω) : List Notice → Roster ω × List Change
  | [] => (roster, [])
  | notice :: rest =>
    let (roster, changes) := watch.apply roster notice
    let (roster, more) := watch.applyAll roster rest
    (roster, changes ++ more)

end Watch

end Hotplug
