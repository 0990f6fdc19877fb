import Hotplug.Proofs.Report.Hub
import Hotplug.Rig.Session
import Hotplug.Session.Basic
/-!
# Commands are blind

Masks change nothing but what is heard of a command, whatever it is given to: a desk or a rig. Most of
the parts of a command are operations of a hub, which are candid and so blind. What is left is what
commands do with slots, and those that go on after a failure.

## Main statements

* `Hotplug.DeskCommand.blind_run`, `Hotplug.RigDeskCommand.blind_run`
-/

namespace Hotplug

open Hotplug.Action

variable {α : Type}

/-! ### Hubs -/

namespace Hub

variable {σ : Type} [Platform σ]

theorem blind_modifyRecords (f : Records (Platform.Origin σ) → Records (Platform.Origin σ)) :
    (modifyRecords f).Blind :=
  .modify

theorem blind_viewChange (change : Change) : (viewChange change : Action (Hub σ) ChangeView).Blind := by
  cases change with
  | added id => exact .bind (candid_view id).blind fun _ => .pure
  | removed id => exact .bind (candid_view id).blind fun _ => .pure

theorem blind_viewChanges (changes : List Change) :
    (viewChanges changes : Action (Hub σ) (List ChangeView)).Blind :=
  .bind (.mapM blind_viewChange) fun _ => .bind (blind_modifyRecords _) fun _ => .pure

theorem blind_viewDevices (id : MonitorId) :
    (viewDevices id : Action (Hub σ) (List DeviceView)).Blind :=
  .bind (candid_monitor id).blind fun _ => .mapM fun id => (candid_view id).blind

end Hub

/-! ### Desks -/

theorem Bench.candid : Platform.Candid Bench :=
  Beside.candid Memory.candid (Beside.candid BackendScript.candid Unsupported.candid)

namespace Desk

theorem blind_onHub {action : Action (Hub Bench) α} (h : action.Blind) : (onHub action).Blind :=
  h.on _ _

theorem candid_native : native.Candid :=
  (Bench.candid.native.on _ _).on _ _

theorem blind_withSlot {ι : Type} {slots : Desk → Table String ι} {slot : String}
    {next : ι → Action Desk Answer} (h : ∀ held, (next held).Blind) : (withSlot slots slot next).Blind :=
  .bind .get fun _ => by
    split
    · exact h _
    · exact .pure

theorem blind_release (id : RecordId) : (release id).Blind :=
  blind_onHub (Hub.blind_modifyRecords _)

theorem blind_fillDevice (slot : String) (id : RecordId) : (fillDevice slot id).Blind :=
  .bind .get fun _ => .bind (blind_onHub (Hub.blind_modifyRecords _)) fun _ => .bind .modify fun _ =>
    .forM_option blind_release

theorem blind_fillMonitor (slot : String) (id : MonitorId) : (fillMonitor slot id).Blind :=
  .bind .get fun _ => .bind .modify fun _ =>
    .forM_option fun old => blind_onHub (Hub.candid_unwatch old).blind

theorem blind_fillHandle (slot : String) (id : HandleId) : (fillHandle slot id).Blind :=
  .bind .get fun _ => .bind .modify fun _ =>
    .forM_option fun old => blind_onHub (Hub.candid_close old).blind

theorem blind_bindFrom (stem : String) (place : Nat) (ids : List RecordId) :
    (bindFrom stem place ids).Blind := by
  induction ids generalizing place with
  | nil => exact .pure
  | cons id rest ih => exact .bind (blind_fillDevice _ id) fun _ => ih (place + 1)

theorem blind_bindAll (stem : Option String) (ids : List RecordId) : (bindAll stem ids).Blind :=
  .forM_option fun stem => blind_bindFrom stem 0 ids

theorem blind_view (id : RecordId) : (view id).Blind :=
  blind_onHub (Hub.candid_view id).blind

theorem blind_monitor (id : MonitorId) : (onHub (Hub.monitor id)).Blind :=
  blind_onHub (Hub.candid_monitor id).blind

theorem blind_handle (id : HandleId) : (onHub (Hub.handle id)).Blind :=
  blind_onHub (Hub.candid_handle id).blind

theorem blind_withTarget (target : WaitTarget) {next : Waitable → Action Desk Answer}
    (h : ∀ object, (next object).Blind) : (withTarget target next).Blind := by
  cases target with
  | fd number => exact h _
  | handle number => exact h _
  | monitor slot => exact blind_withSlot fun id => .bind (blind_monitor id) fun _ => h _
  | open_ slot => exact blind_withSlot fun id => .bind (blind_handle id) fun _ => h _

end Desk

theorem FieldCommand.blind_run (command : FieldCommand) : command.run.Blind := by
  cases command with
  | attach | plug | unplug | inject | setReportDescriptor | failNext | failAs | setScript =>
    exact .bind .modify fun _ => .pure
  | calls | written | lineCoding => exact .bind .get fun _ => .pure

open Desk

theorem RegistryCommand.blind_run (command : RegistryCommand) : command.run.Blind := by
  cases command with
  | enumerate origin filter bind =>
    exact .bind (blind_onHub (Hub.candid_enumerate Bench.candid _ filter).blind) fun ids =>
      .bind (.mapM blind_view) fun _ => .bind (blind_bindAll bind ids) fun _ =>
        .bind (.forM blind_release) fun _ => .pure
  | monitor slot origin filter =>
    exact .bind (blind_onHub (Hub.candid_watch Bench.candid _ filter).blind) fun id =>
      .bind (blind_monitor id) fun _ => .bind (blind_fillMonitor slot id) fun _ => .pure
  | dropMonitor slot =>
    exact .bind .get fun _ => by
      split
      · exact .pure
      · exact .bind .modify fun _ => .bind (blind_onHub (Hub.candid_unwatch _).blind) fun _ => .pure
  | refresh slot bind =>
    exact blind_withSlot fun id =>
      .bind (blind_onHub (Hub.blind_refresh Bench.candid id)) fun changes =>
        .bind (.mapM fun change => blind_onHub (Hub.blind_viewChange change)) fun _ =>
          .bind (blind_bindAll bind _) fun _ =>
            .bind (blind_onHub (Hub.blind_modifyRecords _)) fun _ => .pure
  | devices slot bind =>
    exact blind_withSlot fun id => .bind (blind_monitor id) fun _ =>
      .bind (.mapM blind_view) fun _ => .bind (blind_bindAll bind _) fun _ => .pure
  | find slot identity fill =>
    exact blind_withSlot fun id => .bind (blind_monitor id) fun _ => by
      split
      · exact .pure
      · exact .bind (blind_view _) fun _ =>
          .bind (.forM_option fun into => blind_fillDevice into _) fun _ => .pure
  | monitorInfo slot =>
    exact blind_withSlot fun id => .bind (blind_monitor id) fun _ =>
      .bind (NativeWait.candid_readable candid_native _ 0).blind fun _ => .pure
  | dumpMonitor slot =>
    exact blind_withSlot fun id => .bind (blind_monitor id) fun _ => .pure

theorem RecordCommand.blind_run (command : RecordCommand) : command.run.Blind := by
  cases command with
  | view slot => exact blind_withSlot fun id => .bind (blind_view id) fun _ => .pure
  | summary slot =>
    exact blind_withSlot fun id => .bind (blind_view id) fun _ =>
      .bind (blind_view id) fun _ => .pure
  | dump slot =>
    exact blind_withSlot fun id =>
      .bind (blind_onHub (Hub.candid_record id).blind) fun _ => .pure
  | clone slot into =>
    exact blind_withSlot fun id => .bind (blind_fillDevice into id) fun _ => .pure
  | drop slot =>
    exact .bind .get fun _ => by
      split
      · exact .pure
      · exact .bind .modify fun _ => .bind (blind_release _) fun _ => .pure
  | compare first second =>
    exact blind_withSlot fun a => blind_withSlot fun b =>
      .bind (blind_view a) fun _ => .bind (blind_view b) fun _ => .pure

namespace HandleCommand

theorem blind_recordOf (id : HandleId) : (recordOf id).Blind :=
  .bind (blind_handle id) fun _ => .pure

theorem blind_targetOf (id : HandleId) : (targetOf id).Blind :=
  .bind (blind_handle id) fun _ => .pure

/-- A transfer of the device behind a handle, with what is answered. -/
theorem blind_transfer {slot : String} {transfer : HandleId → Action (Hub Bench) α}
    (h : ∀ id, (transfer id).Candid) (answer : α → Answer) :
    (withSlot Desk.handles slot fun id =>
      onHub (transfer id) >>= fun value => pure (answer value)).Blind :=
  blind_withSlot fun id => .bind (blind_onHub (h id).blind) fun _ => .pure

theorem blind_run (command : HandleCommand) : command.run.Blind := by
  cases command with
  | open_ device slot =>
    exact blind_withSlot fun id =>
      .bind (blind_onHub (Hub.candid_open Bench.candid id).blind) fun handle =>
        .bind (blind_fillHandle slot handle) fun _ => .pure
  | close slot =>
    exact .bind .get fun _ => by
      split
      · exact .pure
      · exact .bind .modify fun _ => .bind (blind_onHub (Hub.candid_close _).blind) fun _ => .pure
  | view slot =>
    -- Whether there is input may be unknown: the failure to find out is left aside, and was said.
    exact blind_withSlot fun id => .bind (blind_recordOf id) fun record =>
      .bind (blind_view record) fun _ => .bind (blind_targetOf id) fun target =>
        .bind (NativeWait.candid_readable candid_native target 0).blind.attempt fun _ => .pure
  | dump slot =>
    exact blind_withSlot fun id => .bind (blind_recordOf id) fun record =>
      .bind (blind_onHub (Hub.candid_record record).blind) fun _ => .pure
  | deviceOf slot into =>
    exact blind_withSlot fun id => .bind (blind_recordOf id) fun record =>
      .bind (blind_fillDevice into record) fun _ => .pure
  | setAttributes slot bps flags =>
    exact blind_transfer (fun id => Hub.candid_setAttributes Bench.candid id bps flags) _
  | serialRead slot room limit =>
    exact blind_transfer (fun id => Hub.candid_serialRead Bench.candid id room limit) _
  | hidRead slot room limit =>
    exact blind_transfer (fun id => Hub.candid_hidRead Bench.candid id room limit) _
  | serialWrite slot data =>
    exact blind_transfer (fun id => Hub.candid_serialWrite Bench.candid id data) _
  | hidWrite slot report =>
    exact blind_transfer (fun id => Hub.candid_hidWrite Bench.candid id report) _
  | sendFeature slot report =>
    exact blind_transfer (fun id => Hub.candid_sendFeature Bench.candid id report) _
  | getFeature slot number room =>
    exact blind_transfer (fun id => Hub.candid_getFeature Bench.candid id number _) _
  | usage slot => exact blind_transfer (fun id => Hub.candid_usage Bench.candid id) _

end HandleCommand

namespace SetCommand

theorem blind_addTo (slot : String) (set : DescriptorSet) (id : UInt32) (target : Waitable) :
    (addTo slot set id target).Blind :=
  .bind (.require _) fun _ => .bind .modify fun _ => .pure

theorem blind_addFrom (slot : String) (set : DescriptorSet) (id : UInt32) (place more : Nat) :
    (addFrom slot set id place more).Blind := by
  induction more generalizing set id place with
  | zero => exact .pure
  | succ more ih => exact .bind (blind_addTo slot set id _) fun set => ih set (id + 1) (place + 1)

theorem blind_run (command : SetCommand) : command.run.Blind := by
  cases command with
  | make slot capacity slice => exact .bind .modify fun _ => .pure
  | add slot id target =>
    unfold run
    refine blind_withTarget target fun object => ?_
    exact blind_withSlot fun set => .bind (blind_addTo slot set id object) fun _ => .pure
  | addMany slot id count =>
    exact blind_withSlot fun set => .bind (blind_addFrom slot set id 0 count) fun _ => .pure
  | remove slot id => exact blind_withSlot fun _ => .bind .modify fun _ => .pure
  | clear slot => exact blind_withSlot fun _ => .bind .modify fun _ => .pure
  | get slot id => exact blind_withSlot fun _ => .bind .get fun _ => .pure
  | entries slot => exact blind_withSlot fun _ => .bind .get fun _ => .pure
  | copy slot into => exact blind_withSlot fun _ => .bind .modify fun _ => .pure
  | poll slot limit =>
    exact blind_withSlot fun set =>
      .bind (set.candid_pollWith candid_native.call limit).blind fun _ => .pure
  | pollWithin slot limit most =>
    exact blind_withSlot fun set =>
      .bind ((set.candid_pollWith (candid_native.call.limited most) limit).blind.alongside _ _)
        fun _ => .pure
  | readable target limit =>
    unfold run
    refine blind_withTarget target fun object => ?_
    exact .bind (NativeWait.candid_readable candid_native object limit).blind fun _ => .pure
  | writable target limit =>
    unfold run
    refine blind_withTarget target fun object => ?_
    exact .bind (NativeWait.candid_writable candid_native object limit).blind fun _ => .pure

end SetCommand

/-- Masks change nothing but what is heard of a command on a desk. -/
theorem DeskCommand.blind_run (command : DeskCommand) : command.run.Blind := by
  cases command with
  | field command => exact command.blind_run
  | registry command => exact command.blind_run
  | record command => exact command.blind_run
  | handle command => exact command.blind_run
  | set command => exact command.blind_run
  | say level message => exact .bind .say fun _ => .pure
  | fail failure => exact .fail

/-! ### Rigs -/

namespace Rig

variable {σ : Type} [Platform σ]

theorem blind_onHub {action : Action (Hub σ) α} (h : action.Blind) : (onHub action).Blind :=
  h.on _ _

theorem candid_native (h : Platform.Candid σ) : (native : NativeWait (Rig σ)).Candid :=
  (h.native.on _ _).on _ _

theorem blind_poll (h : Platform.Candid σ) (limit : Int) :
    (poll limit : Action (Rig σ) (List UInt32)).Blind :=
  .bind .get fun rig => (rig.set.candid_pollWith (candid_native h).call limit).blind

theorem blind_refresh (h : Platform.Candid σ) : (refresh : Action (Rig σ) (List Change)).Blind :=
  .bind .get fun rig => blind_onHub (Hub.blind_refresh h rig.monitor)

theorem blind_millis : (millis : Action (Rig σ) UInt64).Blind :=
  .bind .modifyGet fun _ => .pure

theorem blind_rounds (h : Platform.Candid σ) (limit : Int32) (start : UInt64) (more : Nat) :
    (rounds limit start more : Action (Rig σ) (Except RigFailure (List Change))).Blind := by
  induction more with
  | zero => exact .wait
  | succ more ih =>
    exact .bind blind_millis fun _ => .bind (blind_poll h _) fun _ => .bind .get fun _ =>
      .ite (.bind (blind_refresh h) fun _ => .pure) (.ite .pure (.bind .modify fun _ => ih))

theorem blind_nextEvents (h : Platform.Candid σ) (limit : Int32) :
    (nextEvents limit : Action (Rig σ) (Except RigFailure (List Change))).Blind :=
  .bind blind_millis fun start => blind_rounds h limit start _

/-- A handle that cannot be added is closed again, after that was said. -/
theorem blind_openRegistered (h : Platform.Candid σ) (record : RecordId) (id : UInt32) :
    (openRegistered record id : Action (Rig σ) (Except RigFailure HandleId)).Blind := by
  refine .bind (blind_onHub (Hub.candid_open h record).blind) fun handle =>
    .bind (blind_onHub (Hub.candid_handle handle).blind) fun _ => .bind .get fun _ => ?_
  split
  · exact .bind .modify fun _ => .pure
  · exact .bind .say fun _ => .bind .get fun _ =>
      .bind (blind_onHub (Hub.candid_close handle).blind) fun _ => .pure

theorem blind_devices : (devices : Action (Rig σ) (List RecordId)).Blind :=
  .bind .get fun rig => .bind (blind_onHub (Hub.candid_monitor rig.monitor).blind) fun _ => .pure

theorem blind_measure {τ : Type} {p : Primitive τ} (h : p.Candid) (set : DescriptorSet)
    (limit : Int) : (PollTiming.measure p set limit).Blind :=
  .bind .modifyGet fun _ => .bind (set.candid_pollWith h limit).blind fun _ =>
    .bind .modifyGet fun _ => .pure

end Rig

namespace RigDesk

theorem blind_onRig {action : Action (Rig Memory) α} (h : action.Blind) : (onRig action).Blind :=
  h.on _ _

theorem blind_onHub {action : Action (Hub Memory) α} (h : action.Blind) : (onHub action).Blind :=
  blind_onRig (Rig.blind_onHub h)

theorem blind_onMemory (f : Memory → Memory) : (onMemory f).Blind :=
  blind_onHub (.on .modify _ _)

theorem blind_show (changes : List Change) : (show_ changes).Blind :=
  .bind (blind_onHub (Hub.blind_viewChanges changes)) fun _ => .pure

theorem blind_fillHandle (slot : String) (id : HandleId) : (fillHandle slot id).Blind :=
  .bind .get fun _ => .bind .modify fun _ =>
    .forM_option fun old => blind_onHub (Hub.candid_close old).blind

end RigDesk

open RigDesk in
/-- Masks change nothing but what is heard of a command on a rig. -/
theorem RigDeskCommand.blind_run (command : RigDeskCommand) : command.run.Blind := by
  cases command with
  | plug | unplug | failAs => exact .bind (RigDesk.blind_onMemory _) fun _ => .pure
  | poll limit => exact .bind (blind_onRig (Rig.blind_poll Memory.candid limit)) fun _ => .pure
  | refresh =>
    exact .bind (blind_onRig (Rig.blind_refresh Memory.candid)) fun changes =>
      .bind (blind_show changes) fun _ => .pure
  | nextEvents limit =>
    refine .bind (blind_onRig (Rig.blind_nextEvents Memory.candid limit)) fun
      | .ok changes => .bind (blind_show changes) fun _ => .pure
      | .error _ => .pure
  | openRegistered place id slot =>
    refine .bind (blind_onRig Rig.blind_devices) fun _ => ?_
    split
    · exact .pure
    · refine .bind (blind_onRig (Rig.blind_openRegistered Memory.candid _ id)) fun
        | .error _ => .pure
        | .ok handle => .bind (RigDesk.blind_fillHandle slot handle) fun _ => .bind .get fun _ => .pure
  | serialWrite slot data =>
    exact .bind .get fun _ => by
      split
      · exact .pure
      · exact .bind (RigDesk.blind_onHub (Hub.candid_serialWrite Memory.candid _ data).blind) fun _ => .pure
  | close slot =>
    exact .bind .get fun _ => by
      split
      · exact .pure
      · exact .bind .modify fun _ =>
          .bind (RigDesk.blind_onHub (Hub.candid_close _).blind) fun _ => .pure
  | remove id => exact .bind (blind_onRig .modifyGet) fun _ => .pure
  | devices =>
    exact .bind .get fun _ => .bind (RigDesk.blind_onHub (Hub.blind_viewDevices _)) fun _ => .pure
  | calls operation => exact .bind .get fun _ => .pure
  | measure limit most =>
    refine .bind (blind_onRig ?_) fun _ => .pure
    cases most with
    | none => exact .bind .get fun rig => Rig.blind_measure (Rig.candid_native Memory.candid).call _ _
    | some most =>
      exact .bind .get fun rig =>
        (Rig.blind_measure ((Rig.candid_native Memory.candid).call.limited most) _ _).alongside _ _

end Hotplug
