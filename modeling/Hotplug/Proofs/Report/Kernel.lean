import Hotplug.Node.Hidraw
import Hotplug.Node.Terminal
import Hotplug.Proofs.Report.Waiting
import Hotplug.Uevent.Source
/-!
# Device nodes and device events are candid

The calls on the kernel fail by returning a number and say nothing. What is built on them makes one
failure of a number, and says so. A reception of events keeps the failure that ended it with what it
received before.

## Main statements

* `Hotplug.Kernel.candid_native`
* `Hotplug.Node.candid_read`, `Hotplug.Node.candid_writeBlocking`, and so on for each transfer.
* `Hotplug.Sysfs.candid_enumerate`, `Hotplug.UeventSocket.candid_open`
* `Hotplug.UeventSocket.tells_drain`: a failure that is returned was said.
-/

namespace Hotplug

open Hotplug.Action

variable {α : Type}

/-! ### Calls on the kernel -/

namespace Kernel

theorem candid_note (call : Syscall) : (note call).Candid :=
  .modify

/-- An action that consults the script of a kernel, and notes the call. -/
theorem candid_consult (call : Syscall) {next : Kernel → Action Kernel α}
    (h : ∀ kernel, (next kernel).Candid) :
    (do
      note call
      next (← Action.get) : Action Kernel α).Candid :=
  .bind (candid_note call) fun _ => .bind .get h

theorem candid_openNode (path : String) : (openNode path).Candid := by
  refine .bind .get fun kernel => ?_
  split
  · exact .pure
  · exact .bind .modifyGet fun _ => .pure

theorem candid_read (fd length : Nat) : (read fd length).Candid := by
  refine .bind .get fun kernel => ?_
  split
  · exact .pure
  · exact candid_consult _ fun _ => .bind .modify fun _ => .pure
  · exact .bind .modify fun _ => .pure
  · exact .ite .pure (.ite (.bind .modify fun _ => .pure)
      (.ite (.bind .modify fun _ => .pure) (.ite .pure .pure)))

theorem candid_write (fd : Nat) (data : Bytes) : (write fd data).Candid := by
  refine .bind .get fun kernel => ?_
  split
  · exact .pure
  · exact candid_consult _ fun _ => .bind .modify fun _ => .pure
  · exact .bind .modify fun _ => .pure
  · exact .ite (.bind .modify fun _ => .pure) .pure

theorem candid_control (fd : Nat) (request : Hid.Request) (argument : Bytes) :
    (control fd request argument).Candid := by
  refine .bind .get fun kernel => ?_
  split
  · exact .pure
  · exact candid_consult _ fun _ => .bind .modify fun _ => .pure
  · exact .pure

theorem candid_getTerminal (fd : Nat) : (getTerminal fd).Candid := by
  refine .bind .get fun kernel => ?_
  split
  · exact .pure
  · exact candid_consult _ fun _ => .bind .modify fun _ => .pure
  · exact .pure

theorem candid_setTerminal (fd : Nat) (terminal : Serial.Terminal) :
    (setTerminal fd terminal).Candid := by
  refine .bind .get fun kernel => ?_
  split
  · exact .pure
  · exact candid_consult _ fun _ => .bind .modify fun _ => .pure
  · exact .pure

theorem candid_makeSocket : makeSocket.Candid := by
  refine candid_consult _ fun kernel => .bind .modify fun _ => ?_
  split
  · exact .pure
  · exact .bind .modifyGet fun _ => .pure

theorem candid_bindSocket (groups : Nat) : (bindSocket groups).Candid :=
  candid_consult _ fun _ => .bind .modify fun _ => .pure

theorem candid_receive (room : Nat) : (receive room).Candid :=
  .bind .get fun _ => .bind .modify fun _ => .pure

theorem candid_poll (fds : List Int) (wanted : Nat) (limit : Int) :
    (poll fds wanted limit).Candid :=
  .bind .get fun _ => .ite (.bind (candid_note _) fun _ => .bind .modify fun _ => .pure)
    (.ite .pure (.ite .wait (.bind .modify fun _ => .pure)))

theorem candid_readiness (wanted : Nat) (answer : Except Errno (List Nat)) :
    (readiness wanted answer).Candid := by
  cases answer with
  | error errno => exact .ite .pure (.ite .fail .fail)
  | ok found => exact .ite .pure .pure

theorem candid_native : native.Candid where
  call _ _ := .bind (.require _) fun _ => .bind (candid_poll _ _ _) fun _ => candid_readiness _ _
  output _ _ := .bind (candid_poll _ _ _) fun _ => candid_readiness _ _

end Kernel

/-! ### Device nodes -/

namespace Node

theorem candid_uninterrupted {call : Action Kernel (Except Errno α)} (h : call.Candid) (more : Nat) :
    (uninterrupted call more).Candid := by
  induction more with
  | zero => exact .wait
  | succ more ih =>
    exact .bind h fun
      | .ok _ => .pure
      | .error _ => .ite ih .pure

theorem candid_restarting {call : Action Kernel (Except Errno α)} (h : call.Candid)
    (left : CallScript → Nat) : (restarting left call).Candid :=
  .of_state (f := fun kernel => uninterrupted call (left kernel.script + 1))
    fun _ => candid_uninterrupted h _

theorem candid_open (path : String) : (open_ path).Candid :=
  .bind (Kernel.candid_openNode path) fun
    | .ok _ => .pure
    | .error _ => .fail

variable (node : Node)

theorem candid_readNow (length : Nat) (waited : Bool) : (node.readNow length waited).Candid :=
  .bind (candid_restarting (Kernel.candid_read _ _) _) fun
    | .ok _ => .ite .fail .pure
    | .error _ => .ite .pure .fail

theorem candid_read (length : Nat) (limit : Int) : (node.read length limit).Candid :=
  .ite (node.candid_readNow _ _)
    (.bind (NativeWait.candid_readable Kernel.candid_native _ _) fun _ =>
      .ite (node.candid_readNow _ _) .pure)

theorem candid_writeOnce (data : Bytes) : (node.writeOnce data).Candid :=
  .bind (candid_restarting (Kernel.candid_write _ _) _) fun
    | .ok _ => .pure
    | .error _ => .ite .pure .fail

theorem candid_writeAttempts (data : Bytes) (more : Nat) :
    (node.writeAttempts data more).Candid := by
  induction more with
  | zero => exact .wait
  | succ more ih =>
    exact .bind (node.candid_writeOnce data) fun _ =>
      .ite .pure (.bind (NativeWait.candid_writable Kernel.candid_native _ _) fun _ => ih)

theorem candid_writeBlocking (data : Bytes) : (node.writeBlocking data).Candid :=
  .ite .pure (.of_state (f := fun kernel => node.writeAttempts data (kernel.script.writes.length + 1))
    fun _ => node.candid_writeAttempts data _)

theorem candid_control (request : Hid.Request) (argument : Bytes) :
    (node.control request argument).Candid :=
  candid_restarting (Kernel.candid_control _ _ _) _

theorem candid_reportDescriptor : node.reportDescriptor.Candid :=
  .bind (node.candid_control _ _) fun
    | .error _ => .fail
    | .ok _ => .bind (node.candid_control _ _) fun
      | .error _ => .fail
      | .ok _ => .pure

theorem candid_sendFeature (report : Bytes) : (node.sendFeature report).Candid :=
  .ite .fail (.bind (node.candid_control _ _) fun
    | .ok _ => .pure
    | .error _ => .ite .pure .fail)

theorem candid_getFeature (id : UInt8) (buffer : Bytes) : (node.getFeature id buffer).Candid :=
  .ite .fail (.bind (node.candid_control _ _) fun
    | .ok _ => .pure
    | .error _ => .ite .pure .fail)

theorem candid_configure (settings : Serial.Settings) : (node.configure settings).Candid :=
  .bind (Kernel.candid_getTerminal _) fun
    | .error _ => .fail
    | .ok _ => .bind (Kernel.candid_setTerminal _ _) fun
      | .error _ => .fail
      | .ok _ => .pure

end Node

/-! ### The device tree -/

namespace Sysfs

variable (sysfs : Sysfs)

theorem candid_read (path : String) (family : Family) : (sysfs.read path family).Candid := by
  refine .bind .get fun tree => ?_
  split
  · exact .pure
  · exact .bind (.forIn (fun _ _ => .bind .diagnose fun _ => .pure) _) fun _ => .pure

theorem candid_deviceAt (devpath : String) (family : Family) :
    (sysfs.deviceAt devpath family).Candid :=
  sysfs.candid_read _ family

theorem candid_enumerateFamily (filter : Filter) (family : Family) :
    (sysfs.enumerateFamily filter family).Candid :=
  .bind .get fun _ => .bind (.require _) fun _ =>
    .bind (.mapM fun path => sysfs.candid_read path family) fun _ => .pure

theorem candid_enumerate (filter : Filter) : (sysfs.enumerate filter).Candid :=
  .bind (.mapM (sysfs.candid_enumerateFamily filter)) fun _ => .pure

end Sysfs

/-! ### Device events -/

namespace UeventSocket

theorem candid_open (source : EventSource) (sysfs : Sysfs) (filter : Filter) :
    (open_ source sysfs filter).Candid :=
  .bind Kernel.candid_makeSocket fun
    | .error _ => .fail
    | .ok _ => .bind (Kernel.candid_bindSocket _) fun
      | .error _ => .bind .modify fun _ => .fail
      | .ok _ => .pure

variable (socket : UeventSocket)

theorem candid_translate (event : Uevent) : (socket.translate event).Candid := by
  unfold translate
  split
  · exact .pure
  refine .ite .pure ?_
  split
  · exact .bind (.on (socket.sysfs.candid_deviceAt _ _) _ _) fun _ => .pure
  · exact .pure
  · exact .pure

theorem candid_digest (datagram : Datagram) : (socket.digest datagram).Candid := by
  refine .ite (.bind .diagnose fun _ => .pure) ?_
  split
  · exact socket.candid_translate _
  · exact .bind .diagnose fun _ => .pure

theorem tells_receiveAll (more : Nat) :
    (socket.receiveAll more).Tells (Ending.alertsWith (·.2)) := by
  induction more with
  | zero => exact ⟨fun _ => rfl, .wait⟩
  | succ more ih =>
    refine (Kernel.candid_receive messageRoom).bind_tells (fun answer => ?_) (fun _ => rfl) rfl
    cases answer with
    | error errno =>
      -- A reception that was interrupted is no failure, and neither is one that found nothing.
      dsimp only
      split
      · exact ih
      split
      · exact ⟨fun _ => rfl, .pure⟩
      · exact ⟨fun _ => rfl, .bind .say fun _ => .pure⟩
    | ok datagram =>
      refine (socket.candid_digest datagram).bind_tells (fun notice => ?_) (fun _ => rfl) rfl
      exact ih.bind_pure fun _ => rfl

/-- A reception says of the failure that it returns. -/
theorem tells_drain : socket.drain.Tells (Ending.alertsWith (·.2)) :=
  .of_state (f := fun kernel => socket.receiveAll (kernel.script.receptions.length + 1))
    fun _ => socket.tells_receiveAll _

end UeventSocket

end Hotplug
