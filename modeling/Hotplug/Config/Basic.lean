import Hotplug.Backend.Linux
import Hotplug.Datum.Device
import Hotplug.Journal
import Hotplug.Wait.DescriptorSet
/-!
# Configuration

What can be set from outside: how much a descriptor set takes, how long it stays with one chunk, which
failures are kept out of the journal, and where the platform finds things. Everything has a default.

## Main definitions

* `Hotplug.Config`, with `Hotplug.PollSetup`, `Hotplug.LogSetup` and `Hotplug.LinuxSetup`
* `Hotplug.Config.check`: which values are out of range.
* `Hotplug.Config.ofDatum`: the configuration that a document gives.
* `Hotplug.Config.agree`: whether two configurations set the same, however paths are spelled.
-/

namespace Hotplug

/-- How descriptor sets wait. -/
structure PollSetup where
  /-- How many entries a set takes. -/
  capacity : UInt64 := 256
  /-- How long a wait stays with one chunk, in milliseconds. -/
  slice : Int32 := 10
  deriving DecidableEq, Repr

/-- An empty set as the setup asks for. -/
def DescriptorSet.ofSetup (setup : PollSetup) : DescriptorSet :=
  { capacity := setup.capacity.toNat, slice := setup.slice.toInt }

/-- What is kept out of the journal. -/
structure LogSetup where
  /-- The codes to be masked. -/
  masked : List Code := []
  deriving DecidableEq, Repr

/-- Everything that can be set. -/
structure Config where
  /-- How descriptor sets wait. -/
  poll : PollSetup := {}
  /-- What is kept out of the journal. -/
  log : LogSetup := {}
  /-- Where the platform finds things. -/
  linux : LinuxSetup := {}
  deriving DecidableEq, Repr

namespace Config

/-- Whether two configurations set the same. Of a path its steps count, not its spelling. -/
def agree (a b : Config) : Bool :=
  a.poll == b.poll && a.log == b.log &&
    Path.agree a.linux.sysfs.root b.linux.sysfs.root &&
    Path.agree a.linux.sysfs.devRoot b.linux.sysfs.devRoot && a.linux.events == b.linux.events

theorem agree_refl (config : Config) : config.agree config = true := by
  simp [agree, Path.agree_refl]

/-- Why a configuration is refused. -/
inductive Refusal
  /-- The document is none, or does not say what a configuration has to say. -/
  | unreadable
  /-- Descriptor sets would take nothing. -/
  | noCapacity
  /-- Waits would not stay with any chunk. -/
  | noSlice
  /-- The device tree has no root. -/
  | noTreeRoot
  /-- The device nodes have no root. -/
  | noNodeRoot
  deriving DecidableEq, Repr

namespace Refusal

/-- What to tell people. -/
def message : Refusal → String
  | unreadable => "failed to parse config"
  | noCapacity => "poll.descriptor_capacity must be at least 1"
  | noSlice => "poll.chunk_slice_ms must be positive"
  | noTreeRoot => "linux.sysfs_root cannot be empty"
  | noNodeRoot => "linux.dev_root cannot be empty"

/-- A refused configuration is an invalid request. -/
def failure (refusal : Refusal) : Failure :=
  .invalid refusal.message

end Refusal

/-- Refuses values that are out of range. -/
def check (config : Config) : Except Refusal Unit :=
  if config.poll.capacity = 0 then .error .noCapacity
  else if config.poll.slice ≤ 0 then .error .noSlice
  else if config.linux.sysfs.root.isEmpty then .error .noTreeRoot
  else if config.linux.sysfs.devRoot.isEmpty then .error .noNodeRoot
  else .ok ()

end Config

namespace Coded

instance : Coded PollSetup where
  encode setup := .record [
    ("descriptor_capacity", encode setup.capacity),
    ("chunk_slice_ms", encode setup.slice)]
  decode? dialect datum := do
    let fields ← datum.fields? dialect 2
    return {
      capacity := ← withDefault 256 dialect fields 0 "descriptor_capacity"
      slice := ← withDefault 10 dialect fields 1 "chunk_slice_ms" }

instance : Coded LogSetup where
  encode setup := .record [("masked", encode setup.masked)]
  decode? dialect datum := do
    let fields ← datum.fields? dialect 1
    return { masked := ← withDefault [] dialect fields 0 "masked" }

instance : Coded EventSource :=
  ofNames EventSource.name EventSource.ofName?

instance : Coded LinuxSetup where
  encode setup := .record [
    ("sysfs_root", encode setup.sysfs.root),
    ("dev_root", encode setup.sysfs.devRoot),
    ("uevent_source", encode setup.events)]
  decode? dialect datum := do
    let fields ← datum.fields? dialect 3
    let root ← withDefault "/sys" dialect fields 0 "sysfs_root"
    let devRoot ← withDefault "/dev" dialect fields 1 "dev_root"
    return {
      sysfs := ⟨root, devRoot⟩
      events := ← withDefault .udev dialect fields 2 "uevent_source" }

/-- The parts of a configuration. No other name may occur at the top. -/
def configParts : List String :=
  ["poll", "log", "linux"]

instance : Coded Config where
  encode config := .record [
    ("poll", encode config.poll),
    ("log", encode config.log),
    ("linux", encode config.linux)]
  decode? dialect datum := do
    let fields ← datum.fields? dialect 3
    if !fields.onlyKnown configParts then none
    return {
      poll := ← withDefault {} dialect fields 0 "poll"
      log := ← withDefault {} dialect fields 1 "log"
      linux := ← withDefault {} dialect fields 2 "linux" }

end Coded

/-- The configuration that a document gives, within range. -/
def Config.ofDatum (document : Datum) : Except Config.Refusal Config :=
  match Coded.decode? .toml document with
  | none => .error .unreadable
  | some config => (Config.check config).map fun _ => config

end Hotplug
