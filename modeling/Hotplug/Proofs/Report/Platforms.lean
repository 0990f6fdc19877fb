import Hotplug.Backend.Beside
import Hotplug.Backend.Linux
import Hotplug.Backend.Memory
import Hotplug.Backend.Script
import Hotplug.Backend.Unsupported
import Hotplug.Proofs.Report.Kernel
/-!
# Platforms are candid

Every operation of every platform says of the failure with which it ends. A delivery of announcements
that was cut short says of the failure that it returns with the notices.

## Main definitions

* `Hotplug.Platform.Candid`
* `Hotplug.System`, `Hotplug.Make`: the platforms that there are.

## Main statements

* `Hotplug.Make.candid`
-/

namespace Hotplug

open Hotplug.Action

variable {α : Type}

/-- Every operation of the platform says of the failure with which it ends. A delivery says of the
failure that cut it short. -/
structure Platform.Candid (σ : Type) [Platform σ] : Prop where
  enumerate : ∀ (origin : Platform.Origin σ) filter, (Platform.enumerate origin filter).Candid
  subscribe : ∀ (origin : Platform.Origin σ) filter, (Platform.subscribe origin filter).Candid
  drain : ∀ source : Platform.Source σ,
    (Platform.drain source).Tells (Ending.alertsWith Drained.failure)
  openChannel : ∀ (origin : Platform.Origin σ) info, (Platform.openChannel origin info).Candid
  read : ∀ (channel : Platform.Channel σ) room limit, (Platform.read channel room limit).Candid
  write : ∀ (channel : Platform.Channel σ) data, (Platform.write channel data).Candid
  configure : ∀ (channel : Platform.Channel σ) settings, (Platform.configure channel settings).Candid
  reportDescriptor : ∀ channel : Platform.Channel σ, (Platform.reportDescriptor channel).Candid
  sendFeature : ∀ (channel : Platform.Channel σ) report, (Platform.sendFeature channel report).Candid
  getFeature : ∀ (channel : Platform.Channel σ) number buffer,
    (Platform.getFeature channel number buffer).Candid
  native : (Platform.native : NativeWait σ).Candid

/-! ### Devices in memory -/

namespace Memory

theorem candid_enter (operation : Operation) : (enter operation).Candid := by
  refine .bind .modifyGet fun fault => ?_
  split
  · exact .fail
  · exact .pure

theorem candid_native : native.Candid where
  call objects limit := by
    refine .bind (.require _) fun fds => .bind .get fun memory => ?_
    split
    · split
      · exact .wait
      · exact .bind .modify fun _ => .pure
    · exact .pure
  output _ _ := .pure

theorem tells_drain (subscriber : Subscriber) :
    (drain subscriber).Tells (Ending.alertsWith Drained.failure) := by
  -- The failure is said by the attempt, and what is returned afterwards holds it.
  refine (candid_enter .drain).attempt_bind (fun ending state => ?_) fun
    | .returned _ => .bind .modifyGet fun _ => .pure
    | .failed _ => .pure
    | .unending => .wait
  cases ending with
  | returned _ => rfl
  | failed _ => rfl
  | unending => rfl

theorem candid_open (info : Info) : (open_ info).Candid :=
  .bind (candid_enter _) fun _ => .bind .get fun _ => .ite .fail .modifyGet

theorem candid_read (channel : Channel) (room : Nat) (limit : Int) :
    (read channel room limit).Candid :=
  .bind (candid_enter _) fun _ =>
    .bind (NativeWait.candid_readable candid_native _ _) fun _ => .ite (.ite .fail .modifyGet) .pure

theorem candid_write (channel : Channel) (data : Bytes) : (write channel data).Candid :=
  .bind (candid_enter _) fun _ => .bind .modifyGet fun _ => .ite .pure .fail

theorem candid_sendFeature (channel : Channel) (report : Bytes) :
    (sendFeature channel report).Candid := by
  refine .bind (candid_enter _) fun _ => ?_
  split
  · exact .pure
  · exact .bind .modify fun _ => .pure

theorem candid_getFeature (channel : Channel) (number : UInt8) (buffer : Bytes) :
    (getFeature channel number buffer).Candid := by
  refine .bind (candid_enter _) fun _ => .bind .get fun memory => ?_
  split
  · exact .fail
  · exact .pure

theorem candid : Platform.Candid Memory where
  enumerate _ _ := .bind (candid_enter _) fun _ => .bind .get fun _ => .pure
  subscribe _ _ := .bind (candid_enter _) fun _ => .modifyGet
  drain := tells_drain
  openChannel _ := candid_open
  read := candid_read
  write := candid_write
  configure _ _ := .bind (candid_enter _) fun _ => .modify
  reportDescriptor _ := .bind (candid_enter _) fun _ => .bind .get fun _ => .pure
  sendFeature := candid_sendFeature
  getFeature := candid_getFeature
  native := candid_native

end Memory

/-! ### Linux -/

namespace Linux

theorem tells_onKernel {action : Action Kernel α} {account : Ending α → List Report}
    (h : action.Tells account) : (onKernel action).Tells account :=
  h.on _ _

theorem tells_drain (socket : UeventSocket) :
    (drain socket).Tells (Ending.alertsWith Drained.failure) :=
  (tells_onKernel socket.tells_drain).bind_pure fun _ => rfl

namespace Channel

variable (channel : Channel)

theorem candid_write (data : Bytes) : (channel.write data).Candid := by
  unfold write
  split
  · exact channel.node.candid_writeOnce data
  · exact channel.node.candid_writeBlocking data

theorem candid_configure (settings : Serial.Settings) : (channel.configure settings).Candid := by
  unfold configure
  split
  · exact .fail
  · exact channel.node.candid_configure settings

theorem candid_reportDescriptor : channel.reportDescriptor.Candid := by
  unfold reportDescriptor
  split
  · exact channel.node.candid_reportDescriptor
  · exact .fail

theorem candid_sendFeature (report : Bytes) : (channel.sendFeature report).Candid := by
  unfold sendFeature
  split
  · exact channel.node.candid_sendFeature report
  · exact .fail

theorem candid_getFeatureInto (number : UInt8) (buffer : Bytes) :
    (channel.getFeatureInto number buffer).Candid := by
  unfold getFeatureInto
  split
  · exact channel.node.candid_getFeature number buffer
  · exact .fail

end Channel

theorem candid : Platform.Candid Linux where
  enumerate _ filter := .bind .get fun linux =>
    tells_onKernel ((linux.setup.sysfs.candid_enumerate filter).on _ _)
  subscribe _ _ := .bind .get fun _ => tells_onKernel (UeventSocket.candid_open _ _ _)
  drain := tells_drain
  openChannel _ _ := tells_onKernel (Candid.bind (Node.candid_open _) fun _ => .pure)
  read channel room limit := tells_onKernel (channel.node.candid_read room limit)
  write channel data := tells_onKernel (channel.candid_write data)
  configure channel settings := tells_onKernel (channel.candid_configure settings)
  reportDescriptor channel := tells_onKernel channel.candid_reportDescriptor
  sendFeature channel report := tells_onKernel (channel.candid_sendFeature report)
  getFeature channel number buffer := tells_onKernel (channel.candid_getFeatureInto number buffer)
  native := .on Kernel.candid_native _ _

end Linux

/-! ### Scripts, nothing at all, and two platforms -/

theorem Unsupported.candid : Platform.Candid Unsupported where
  enumerate _ _ := .fail
  subscribe _ _ := .fail
  drain := nofun
  openChannel _ _ := .fail
  read := nofun
  write := nofun
  configure := nofun
  reportDescriptor := nofun
  sendFeature := nofun
  getFeature := nofun
  native := ⟨fun _ _ => .pure, fun _ _ => .pure⟩

theorem BackendScript.tells_deliver : deliver.Tells (Ending.alertsWith Drained.failure) := by
  refine Candid.modifyGet.bind_tells (fun delivery => ?_) (fun _ => rfl) rfl
  split
  · exact ⟨fun _ => rfl, .pure⟩
  · split
    · exact ⟨fun _ => rfl, .pure⟩
    · exact ⟨fun _ => rfl, .bind .say fun _ => .pure⟩

theorem BackendScript.candid : Platform.Candid BackendScript where
  enumerate _ _ := .gets
  subscribe _ _ := .pure
  drain _ := tells_deliver
  openChannel _ _ := .pure
  read _ _ _ := .pure
  write _ _ := .pure
  configure _ _ := .fail
  reportDescriptor _ := .fail
  sendFeature _ _ := .fail
  getFeature _ _ _ := .fail
  native := ⟨fun _ _ => .bind (.require _) fun _ => .pure, fun _ _ => .pure⟩

namespace Beside

variable {σ τ : Type} {account : Ending α → List Report}

theorem tells_onFirst {action : Action σ α} (h : action.Tells account) :
    (onFirst action : Action (Beside σ τ) α).Tells account :=
  h.on _ _

theorem tells_onSecond {action : Action τ α} (h : action.Tells account) :
    (onSecond action : Action (Beside σ τ) α).Tells account :=
  h.on _ _

theorem candid [Platform σ] [Platform τ] (hfirst : Platform.Candid σ)
    (hsecond : Platform.Candid τ) : Platform.Candid (Beside σ τ) where
  enumerate
    | .inl origin, filter => tells_onFirst (hfirst.enumerate origin filter)
    | .inr origin, filter => tells_onSecond (hsecond.enumerate origin filter)
  subscribe
    | .inl origin, filter => .map (tells_onFirst (hfirst.subscribe origin filter)) _
    | .inr origin, filter => .map (tells_onSecond (hsecond.subscribe origin filter)) _
  drain
    | .inl source => tells_onFirst (hfirst.drain source)
    | .inr source => tells_onSecond (hsecond.drain source)
  openChannel
    | .inl origin, info => .map (tells_onFirst (hfirst.openChannel origin info)) _
    | .inr origin, info => .map (tells_onSecond (hsecond.openChannel origin info)) _
  read
    | .inl channel, room, limit => tells_onFirst (hfirst.read channel room limit)
    | .inr channel, room, limit => tells_onSecond (hsecond.read channel room limit)
  write
    | .inl channel, data => tells_onFirst (hfirst.write channel data)
    | .inr channel, data => tells_onSecond (hsecond.write channel data)
  configure
    | .inl channel, settings => tells_onFirst (hfirst.configure channel settings)
    | .inr channel, settings => tells_onSecond (hsecond.configure channel settings)
  reportDescriptor
    | .inl channel => tells_onFirst (hfirst.reportDescriptor channel)
    | .inr channel => tells_onSecond (hsecond.reportDescriptor channel)
  sendFeature
    | .inl channel, report => tells_onFirst (hfirst.sendFeature channel report)
    | .inr channel, report => tells_onSecond (hsecond.sendFeature channel report)
  getFeature
    | .inl channel, number, buffer => tells_onFirst (hfirst.getFeature channel number buffer)
    | .inr channel, number, buffer => tells_onSecond (hsecond.getFeature channel number buffer)
  native := hfirst.native.on _ _

end Beside

/-! ### All of them -/

/-- A state with the operations of a platform on it. -/
structure System where
  State : Type
  /-- The operations. -/
  [platform : Platform State]

attribute [instance] System.platform

/-- The platforms that there are. -/
inductive Make
  | memory
  | linux
  | unsupported
  | script
  | beside (first second : Make)

namespace Make

/-- The system of each. -/
def system : Make → System
  | memory => ⟨Memory⟩
  | linux => ⟨Linux⟩
  | unsupported => ⟨Unsupported⟩
  | script => ⟨BackendScript⟩
  | beside first second => ⟨Beside first.system.State second.system.State⟩

/-- The state of each. -/
abbrev State (make : Make) : Type :=
  make.system.State

theorem candid (make : Make) : Platform.Candid make.State := by
  induction make with
  | memory => exact Memory.candid
  | linux => exact Linux.candid
  | unsupported => exact Unsupported.candid
  | script => exact BackendScript.candid
  | beside first second hfirst hsecond => exact Beside.candid hfirst hsecond

end Make

end Hotplug
