import Hotplug.Action
import Hotplug.Bytes
import Hotplug.Device
import Hotplug.Serial.Line
import Hotplug.Wait.Engine
/-!
# Platforms

What the library needs from the system below it: to list devices, to announce changes, and to open
devices for transfers. One platform may offer several backends that know devices of their own.

## Main definitions

* `Hotplug.Platform`: the operations of a platform on a state.
* `Hotplug.Drained`: what an announcement source delivered.
* `Hotplug.Lacking`: a transfer that a channel does not know.
-/

namespace Hotplug

/-- What a source of announcements delivered: notices in order, and the failure that cut the delivery
short, if one did. The failure was reported when it came about. -/
structure Drained where
  /-- The notices, oldest first. -/
  notices : List Notice := []
  failure : Option Failure := none
  deriving DecidableEq, Repr

/-- A transfer that a channel does not know. -/
inductive Lacking
  /-- There are no serial settings. -/
  | serialSettings
  /-- There is no report descriptor. -/
  | reportDescriptor
  /-- There are no feature reports. -/
  | featureReports
  deriving DecidableEq, Repr

namespace Lacking

/-- What to tell people. -/
def message : Lacking → String
  | serialSettings => "Channel does not support serial settings"
  | reportDescriptor => "Channel has no HID report descriptor"
  | featureReports => "Channel does not support feature reports"

/-- An unknown transfer is an invalid request. -/
def failure (lacking : Lacking) : Failure :=
  .invalid lacking.message

end Lacking

/-- The operations of a platform whose state is of type `σ`. -/
class Platform (σ : Type) where
  /-- The backends that the platform offers. -/
  Origin : Type
  /-- Sources of announcements. -/
  Source : Type
  /-- Open devices. -/
  Channel : Type
  /-- What a backend is called. -/
  name : Origin → String
  /-- The devices that are there, those that do not pass a filter possibly left out. -/
  enumerate : Origin → Filter → Action σ (List Info)
  /-- Begins to collect announcements. -/
  subscribe : Origin → Filter → Action σ Source
  /-- Ends collecting announcements. -/
  unsubscribe : Source → σ → σ
  /-- Delivers the announcements collected since the last time. -/
  drain : Source → Action σ Drained
  /-- The object that is ready while announcements wait to be delivered. -/
  sourceTarget : Source → Waitable
  /-- Opens a device. -/
  openChannel : Origin → Info → Action σ Channel
  /-- Closes a device. -/
  closeChannel : Channel → σ → σ
  /-- The object that is ready while input waits to be read. -/
  channelTarget : Channel → Waitable
  /-- Waits for input until a limit runs out, then reads at most so many bytes. -/
  read : Channel → Nat → Int → Action σ Bytes
  /-- Writes bytes; answers how many were taken. -/
  write : Channel → Bytes → Action σ Nat
  /-- Gives a serial line its coding. -/
  configure : Channel → Serial.Settings → Action σ Unit
  reportDescriptor : Channel → Action σ Bytes
  /-- Sends a feature report; answers how many bytes were taken. -/
  sendFeature : Channel → Bytes → Action σ Nat
  /-- Asks for a feature report to be put into a buffer: the count given, and the buffer afterwards. -/
  getFeature : Channel → UInt8 → Bytes → Action σ (Nat × Bytes)
  /-- Waiting for objects of the platform. -/
  native : NativeWait σ

/-- Waiting in a part of a larger state. -/
def NativeWait.on (part : σ → τ) (put : τ → σ → σ) (p : NativeWait τ) : NativeWait σ where
  limit := p.limit
  now := fun s => ((p.now (part s)).1, put (p.now (part s)).2 s)
  sleep := fun ms s => put (p.sleep ms (part s)) s
  call := fun objects limit => (p.call objects limit).on part put
  patience := fun limit s => p.patience limit (part s)
  output := fun fd limit => (p.output fd limit).on part put

/-- A primitive that takes at most so many objects per call and notes the most that it was given. -/
def Primitive.limited (p : Primitive σ) (limit : Nat) : Primitive (σ × Nat) where
  limit := some limit
  now := fun (s, most) => ((p.now s).1, (p.now s).2, most)
  sleep := fun ms (s, most) => (p.sleep ms s, most)
  call := fun objects limit =>
    (p.call objects limit).on Prod.fst fun s whole => (s, max whole.2 objects.length)
  patience := fun limit (s, _) => p.patience limit s

end Hotplug
