import Hotplug.Backend.Sample
import Hotplug.Proofs.Backend.Traffic
import Hotplug.Proofs.Hub.Failing
import Hotplug.Proofs.Serial.Choices
/-!
# Which transfers reach the device

Eight requests go to an open handle, each with a rule of its own for what can be asked. A request for
the family of the device that makes sense comes to one call of the channel. Any other comes to none:
it is refused, or there was nothing to write, and the hub stays as it was.

## Main definitions

* `Hotplug.Hub.Transfer`: the requests.
* `Hotplug.Hub.Transfer.Calls`: the call that a request comes to.
* `Hotplug.Memory.Counted`: one call was counted, and the fault that waited for it is used up.

## Main statements

* `Hotplug.Hub.Transfer.rest_of_calls`, `Hotplug.Hub.Transfer.rest_of_idle`,
  `Hotplug.Hub.Transfer.rest_of_refused`: what arguments lead to, above any platform.
* `Hotplug.Hub.Transfer.run_request_of_ne`: a device of the other family.
* `Hotplug.Hub.Transfer.counted`: a call of a channel in memory is counted once.
* `Hotplug.Hub.one_call_or_none`
-/

namespace Hotplug

/-- What comes after an action that says nothing. -/
theorem Action.run_bind_quiet {σ α β : Type} {first : Action σ α} {next : α → Action σ β}
    {state left : σ} {value : α} (h : first.run state = ⟨.returned value, left, []⟩) :
    (first >>= next).run state = (next value).run left :=
  run_bind_returned h

namespace Memory

/-- One call of an operation was counted, and the fault that waited for the operation is used up. The
faults of other operations still wait. -/
structure Counted (operation : Operation) (memory later : Memory) : Prop where
  calls : later.calls = memory.calls ++ [operation]
  faults : later.faults = memory.faults.erase operation

variable {memory : Memory} {operation : Operation}

theorem counted_enter : (enter operation).Hoare (· = memory) fun _ => memory.Counted operation := by
  rintro _ rfl
  rcases enter_cases operation _ with hends | ⟨failure, hends⟩
  · rw [hends.2]
    exact ⟨rfl, rfl⟩
  · rw [hends.2]
    exact ⟨rfl, rfl⟩

/-- A call whose later steps count nothing. -/
theorem counted_call {α : Type} {rest : Unit → Action Memory α}
    (h : (rest ()).Hoare (memory.Counted operation) fun _ => memory.Counted operation) :
    (enter operation >>= rest).Hoare (· = memory) fun _ => memory.Counted operation :=
  .bind counted_enter (fun _ => h) (fun _ _ h => h) fun _ h => h

theorem counted_read (channel : Channel) (room : Nat) (limit : Int) :
    (read channel room limit).Hoare (· = memory) fun _ => memory.Counted .read := by
  refine counted_call (.bind_keep (hoare_readable ?_ _ _) fun ready => ?_)
  · exact fun later clock h => ⟨h.calls, h.faults⟩
  · split
    · split
      · exact .fail fun _ h => h
      · exact .modifyGet fun _ h => ⟨h.calls, h.faults⟩
    · exact .pure fun _ h => h

theorem counted_write (channel : Channel) (data : Bytes) :
    (write channel data).Hoare (· = memory) fun _ => memory.Counted .write := by
  refine counted_call (.bind_keep (.modifyGet fun _ h => ⟨h.calls, h.faults⟩) fun left => ?_)
  split
  · exact .pure fun _ h => h
  · exact .fail fun _ h => h

theorem counted_configure (channel : Channel) (settings : Serial.Settings) :
    (configure channel settings).Hoare (· = memory) fun _ => memory.Counted .configureSerial :=
  counted_call (.modify fun _ h => ⟨h.calls, h.faults⟩)

theorem counted_reportDescriptor (channel : Channel) :
    (reportDescriptor channel).Hoare (· = memory) fun _ => memory.Counted .reportDescriptor :=
  counted_call (.bind_keep (.get fun _ h => h) fun _ => .pure fun _ h => h)

theorem counted_sendFeature (channel : Channel) (report : Bytes) :
    (sendFeature channel report).Hoare (· = memory) fun _ => memory.Counted .featureReport := by
  refine counted_call ?_
  split
  · exact .pure fun _ h => h
  · exact .bind_keep (.modify fun _ h => ⟨h.calls, h.faults⟩) fun _ => .pure fun _ h => h

theorem counted_getFeature (channel : Channel) (number : UInt8) (buffer : Bytes) :
    (getFeature channel number buffer).Hoare (· = memory) fun _ => memory.Counted .featureReport := by
  refine counted_call (.bind_keep (.get fun _ h => h) fun now => ?_)
  split
  · exact .fail fun _ h => h
  · exact .pure fun _ h => h

end Memory

namespace Hub

/-- What can be asked of an open handle. -/
inductive Transfer
  /-- Give the line a coding. -/
  | setAttributes (bps : UInt32) (flags : Serial.Flags)
  /-- Wait for serial input, and read what there is room for. -/
  | serialRead (room : Nat) (limit : Int)
  /-- Write serial output. -/
  | serialWrite (data : Bytes)
  /-- Wait for a report, and read what there is room for. -/
  | hidRead (room : Nat) (limit : Int)
  /-- Write a report. -/
  | hidWrite (report : Bytes)
  /-- Send a feature report. -/
  | sendFeature (report : Bytes)
  /-- Ask for a feature report, to be put into a buffer. -/
  | getFeature (number : UInt8) (buffer : Bytes)
  /-- Ask what the device is for. -/
  | usage

namespace Transfer

/-- What is answered. -/
abbrev Answer : Transfer → Type
  | setAttributes .. => Unit
  | serialRead .. | hidRead .. => Bytes
  | serialWrite .. | hidWrite .. | sendFeature .. => Nat
  | getFeature .. => Nat × Bytes
  | usage => Hid.Usage

/-- The devices that can be asked. -/
def family : Transfer → Family
  | setAttributes .. | serialRead .. | serialWrite .. => .serial
  | hidRead .. | hidWrite .. | sendFeature .. | getFeature .. | usage => .hid

/-- The operation of which a call is counted. -/
def operation : Transfer → Operation
  | setAttributes .. => .configureSerial
  | serialRead .. | hidRead .. => .read
  | serialWrite .. | hidWrite .. => .write
  | sendFeature .. | getFeature .. => .featureReport
  | usage => .reportDescriptor

variable {σ : Type} [Platform σ]

/-- The request to a hub. -/
def request (id : HandleId) : (transfer : Transfer) → Action (Hub σ) transfer.Answer
  | setAttributes bps flags => Hub.setAttributes id bps flags
  | serialRead room limit => Hub.serialRead id room limit
  | serialWrite data => Hub.serialWrite id data
  | hidRead room limit => Hub.hidRead id room limit
  | hidWrite report => Hub.hidWrite id report
  | sendFeature report => Hub.sendFeature id report
  | getFeature number buffer => Hub.getFeature id number buffer
  | usage => Hub.usage id

/-- What a request does with the channel. -/
def rest (channel : Platform.Channel σ) : (transfer : Transfer) → Action (Hub σ) transfer.Answer
  | setAttributes bps flags => do
    let settings ← Action.require ((Serial.Settings.ofFlags bps flags).mapError (·.failure))
    onPlatform (Platform.configure channel settings)
  | serialRead room limit =>
    if room = 0 then Action.fail TransferRefusal.noSerialRoom.failure
    else onPlatform (Platform.read channel room limit)
  | serialWrite data => if data.isEmpty then return 0 else onPlatform (Platform.write channel data)
  | hidRead room limit =>
    if room = 0 then Action.fail TransferRefusal.noReportRoom.failure
    else onPlatform (Platform.read channel room limit)
  | hidWrite report =>
    if report.length < 2 then return 0 else onPlatform (Platform.write channel report)
  | sendFeature report =>
    if report.length < 2 then return 0 else onPlatform (Platform.sendFeature channel report)
  | getFeature number buffer =>
    if buffer.length < 2 then Action.fail TransferRefusal.noFeatureRoom.failure
    else onPlatform (Platform.getFeature channel number buffer)
  | usage => do return .ofDescriptor (← onPlatform (Platform.reportDescriptor channel))

theorem request_eq (id : HandleId) (transfer : Transfer) :
    (transfer.request id : Action (Hub σ) _) = channelFor transfer.family id >>= (transfer.rest ·) := by
  cases transfer <;> rfl

/-- The call of a channel that a transfer comes to. There is none for one that makes no sense. -/
inductive Calls (channel : Platform.Channel σ) :
    (transfer : Transfer) → Action σ transfer.Answer → Prop
  /-- The rate is supported, and the flags can be asked for. -/
  | setAttributes {bps : UInt32} {flags : Serial.Flags} {rate : Serial.Rate}
    (hrate : Serial.Rate.ofBps? bps = some rate) (hflags : flags.Allowed) :
    Calls channel (.setAttributes bps flags) (Platform.configure channel (.choose rate flags))
  /-- There is room for a byte. -/
  | serialRead {room : Nat} {limit : Int} (hroom : 1 ≤ room) :
    Calls channel (.serialRead room limit) (Platform.read channel room limit)
  /-- There is a byte to write. -/
  | serialWrite {data : Bytes} (hdata : 1 ≤ data.length) :
    Calls channel (.serialWrite data) (Platform.write channel data)
  /-- There is room for a byte. -/
  | hidRead {room : Nat} {limit : Int} (hroom : 1 ≤ room) :
    Calls channel (.hidRead room limit) (Platform.read channel room limit)
  /-- The report has contents. -/
  | hidWrite {report : Bytes} (hreport : 2 ≤ report.length) :
    Calls channel (.hidWrite report) (Platform.write channel report)
  /-- The report has contents. -/
  | sendFeature {report : Bytes} (hreport : 2 ≤ report.length) :
    Calls channel (.sendFeature report) (Platform.sendFeature channel report)
  /-- There is room for contents. -/
  | getFeature {number : UInt8} {buffer : Bytes} (hroom : 2 ≤ buffer.length) :
    Calls channel (.getFeature number buffer) (Platform.getFeature channel number buffer)
  /-- Nothing can be wrong. -/
  | usage :
    Calls channel .usage (do return .ofDescriptor (← Platform.reportDescriptor channel))

/-- What is answered to a write of nothing, and of a report without contents. -/
def idle? : (transfer : Transfer) → Option transfer.Answer
  | serialWrite data => if data.length < 1 then some 0 else none
  | hidWrite report | sendFeature report => if report.length < 2 then some 0 else none
  | _ => none

/-! ### The arguments -/

variable {channel : Platform.Channel σ} {transfer : Transfer}

theorem run_rest_of_calls {call : Action σ transfer.Answer} (h : transfer.Calls channel call)
    (hub : Hub σ) : (transfer.rest channel).run hub = (onPlatform call).run hub := by
  cases h with
  | setAttributes hrate hflags =>
    rw [rest, Serial.Settings.ofFlags_eq_ok_iff.2 ⟨_, hrate, hflags, rfl⟩]
    rfl
  | serialRead hroom | hidRead hroom => rw [rest, if_neg (Nat.one_le_iff_ne_zero.1 hroom)]
  | serialWrite hdata => rw [rest, if_neg (by simpa using List.ne_nil_of_length_pos hdata)]
  | hidWrite hlength | sendFeature hlength | getFeature hlength =>
    rw [rest, if_neg (Nat.not_lt.2 hlength)]
  | usage =>
    refine (Action.run_bind_pure ..).trans (Eq.symm ?_)
    refine (Action.run_on Hub.platform _ _ hub).trans ?_
    rw [Action.run_bind_pure]
    rfl

theorem rest_of_idle {answer : transfer.Answer} (h : transfer.idle? = some answer) :
    transfer.rest channel = (pure answer : Action (Hub σ) _) := by
  cases transfer with
  | serialWrite data =>
    obtain ⟨hempty, hzero⟩ := Option.ite_none_right_eq_some.1 h
    cases hzero
    exact if_pos (by simpa using hempty)
  | hidWrite report | sendFeature report =>
    obtain ⟨hshort, hzero⟩ := Option.ite_none_right_eq_some.1 h
    cases hzero
    exact if_pos hshort
  | setAttributes | serialRead | hidRead | getFeature | usage => cases h

/-- What comes to no call, and is not idle either, is refused as it is. -/
theorem rest_of_refused (hcall : ∀ call, ¬ transfer.Calls channel call)
    (hidle : transfer.idle? = none) :
    ∃ message, transfer.rest channel = (Action.fail (.invalid message) : Action (Hub σ) _) := by
  cases transfer with
  | setAttributes bps flags =>
    cases hsettings : Serial.Settings.ofFlags bps flags with
    | ok settings =>
      obtain ⟨rate, hrate, hflags, -⟩ := Serial.Settings.ofFlags_eq_ok_iff.1 hsettings
      exact absurd (.setAttributes hrate hflags) (hcall _)
    | error refusal =>
      refine ⟨refusal.message, ?_⟩
      rw [rest, hsettings]
      rfl
  | serialRead room limit =>
    by_cases hroom : room = 0
    · exact ⟨_, if_pos hroom⟩
    · exact absurd (.serialRead (Nat.one_le_iff_ne_zero.2 hroom)) (hcall _)
  | hidRead room limit =>
    by_cases hroom : room = 0
    · exact ⟨_, if_pos hroom⟩
    · exact absurd (.hidRead (Nat.one_le_iff_ne_zero.2 hroom)) (hcall _)
  | getFeature number buffer =>
    by_cases hroom : buffer.length < 2
    · exact ⟨_, if_pos hroom⟩
    · exact absurd (.getFeature (Nat.not_lt.1 hroom)) (hcall _)
  | serialWrite data =>
    have hdata : ¬ data.length < 1 := by simpa [idle?] using hidle
    exact absurd (.serialWrite (Nat.not_lt.1 hdata)) (hcall _)
  | hidWrite report =>
    have hreport : ¬ report.length < 2 := by simpa [idle?] using hidle
    exact absurd (.hidWrite (Nat.not_lt.1 hreport)) (hcall _)
  | sendFeature report =>
    have hreport : ¬ report.length < 2 := by simpa [idle?] using hidle
    exact absurd (.sendFeature (Nat.not_lt.1 hreport)) (hcall _)
  | usage => exact absurd .usage (hcall _)

/-! ### The family -/

variable {hub : Hub σ} {id : HandleId} {handle : Handle σ}
  {record : DeviceRecord (Platform.Origin σ)}

theorem run_channelFor (hhandle : hub.handles.get? id = some handle)
    (hrecord : hub.records.get? handle.record = some record) (family : Family) :
    (channelFor family id).run hub =
      if record.info.family = family then ⟨.returned handle.channel, hub, []⟩
      else
        let failure := (TransferRefusal.wrongFamily record.info.path family).failure
        ⟨.failed failure, hub, [.failure failure]⟩ := by
  have hfound : (Hub.handle id).run hub = ⟨.returned handle, hub, []⟩ := by
    refine (Action.run_bind_quiet (Action.run_get hub)).trans ?_
    rw [hhandle]
    rfl
  have hknown : (Hub.record handle.record).run hub = ⟨.returned record, hub, []⟩ := by
    refine (Action.run_bind_quiet (Action.run_get hub)).trans ?_
    rw [hrecord]
    rfl
  rw [channelFor, Action.run_bind_quiet hfound, Action.run_bind_quiet hknown]
  split <;> rfl

theorem run_request_of_family (hhandle : hub.handles.get? id = some handle)
    (hrecord : hub.records.get? handle.record = some record)
    (hfamily : record.info.family = transfer.family) :
    (transfer.request id).run hub = (transfer.rest handle.channel).run hub := by
  have hchannel := run_channelFor hhandle hrecord transfer.family
  rw [if_pos hfamily] at hchannel
  rw [request_eq, Action.run_bind_quiet hchannel]

theorem run_request_of_ne (hhandle : hub.handles.get? id = some handle)
    (hrecord : hub.records.get? handle.record = some record)
    (hfamily : record.info.family ≠ transfer.family) :
    ∃ message, (transfer.request id).run hub =
      ⟨.failed (.invalid message), hub, [.failure (.invalid message)]⟩ := by
  have hchannel := run_channelFor hhandle hrecord transfer.family
  rw [if_neg hfamily] at hchannel
  exact ⟨_, (congrArg (·.run hub) (request_eq id transfer)).trans (Action.run_bind_failed hchannel)⟩

/-! ### The count -/

/-- A call of a channel in memory is counted once. -/
theorem counted {channel : Platform.Channel Memory} {call : Action Memory transfer.Answer}
    (h : transfer.Calls channel call) {memory : Memory} :
    call.Hoare (· = memory) fun _ => memory.Counted transfer.operation := by
  cases h with
  | setAttributes => exact Memory.counted_configure _ _
  | serialRead | hidRead => exact Memory.counted_read _ _ _
  | serialWrite | hidWrite => exact Memory.counted_write _ _
  | sendFeature => exact Memory.counted_sendFeature _ _
  | getFeature => exact Memory.counted_getFeature _ _ _
  | usage =>
    refine .bind (Memory.counted_reportDescriptor channel) (fun _ => ?_) (fun _ _ h => h) fun _ h => h
    exact .pure fun _ h => h

end Transfer

/-- A request of an open handle makes one call of its channel if it is for the family of the device
and makes sense. It makes none if not, and the hub is as it was: the answer to a write of nothing is
that nothing was written, and anything else is refused. -/
theorem one_call_or_none {hub : Hub Memory} {id : HandleId} {handle : Handle Memory}
    {record : DeviceRecord Unit} (hhandle : hub.handles.get? id = some handle)
    (hrecord : hub.records.get? handle.record = some record) (transfer : Transfer) :
    (record.info.family = transfer.family → ∀ call, transfer.Calls handle.channel call →
      (transfer.request id).run hub = (onPlatform call).run hub ∧
        hub.platform.Counted transfer.operation (call.run hub.platform).state) ∧
    (record.info.family = transfer.family → ∀ answer, transfer.idle? = some answer →
      (transfer.request id).run hub = ⟨.returned answer, hub, []⟩) ∧
    (record.info.family ≠ transfer.family ∨
        (∀ call, ¬ transfer.Calls handle.channel call) ∧ transfer.idle? = none →
      ∃ message, (transfer.request id).run hub =
        ⟨.failed (.invalid message), hub, [.failure (.invalid message)]⟩) := by
  refine ⟨fun hfamily call hcall => ⟨?_, Transfer.counted hcall _ rfl⟩,
    fun hfamily answer hidle => ?_, ?_⟩
  · rw [Transfer.run_request_of_family hhandle hrecord hfamily, Transfer.run_rest_of_calls hcall]
  · rw [Transfer.run_request_of_family hhandle hrecord hfamily, Transfer.rest_of_idle hidle]
    rfl
  · by_cases hfamily : record.info.family = transfer.family
    · rintro (hother | ⟨hcall, hidle⟩)
      · exact absurd hfamily hother
      obtain ⟨message, hrest⟩ := Transfer.rest_of_refused hcall hidle
      rw [Transfer.run_request_of_family hhandle hrecord hfamily, hrest]
      exact ⟨message, rfl⟩
    · exact fun _ => Transfer.run_request_of_ne hhandle hrecord hfamily

/-- A hub with a handle on a serial port and a handle on a human interface device. Faults wait for
reads and for feature reports, and both devices sent input. -/
def twoHandles : Hub Memory where
  platform :=
    { present := [Sample.serial 1, Sample.hid 2 0]
      devices := ⟨[("/dev/ttyACM1", { written := [0x41] }), ("/dev/hidraw8", {})]⟩
      pipes := ⟨[(0, ⟨"/dev/ttyACM1", 3, 4, (Conduit.send {} [0x42]).1⟩),
        (1, ⟨"/dev/hidraw8", 5, 6, (Conduit.send {} [0x01, 0x02]).1⟩)]⟩
      faults := ⟨[(.read, .system), (.featureReport, .io)]⟩
      calls := [.openDevice, .openDevice, .write]
      next := 2 }
  records :=
    { table := ⟨[(0, { info := Sample.serial 1, origin := (), refs := 2 }),
        (1, { info := Sample.hid 2 0, origin := (), refs := 2 })]⟩
      next := 2 }
  handles := ⟨[(0, ⟨0, (⟨0, "/dev/ttyACM1", 3⟩ : Memory.Channel)⟩),
    (1, ⟨1, (⟨1, "/dev/hidraw8", 5⟩ : Memory.Channel)⟩)]⟩
  nextHandle := 2

/-- Feature reports are counted on the handle on the human interface device. On the other one they are
refused, and a report without contents comes to nothing. -/
theorem one_call_or_none_twoHandles :
    ((sendFeature 1 [0x03, 0x04]).run twoHandles).state.platform.calls =
        [.openDevice, .openDevice, .write, .featureReport] ∧
      (hidWrite 1 [0x03]).run twoHandles = ⟨.returned 0, twoHandles, []⟩ ∧
      ∃ message, (sendFeature 0 [0x03, 0x04]).run twoHandles =
        ⟨.failed (.invalid message), twoHandles, [.failure (.invalid message)]⟩ := by
  have hserial : twoHandles.handles.get? 0 = some ⟨0, (⟨0, "/dev/ttyACM1", 3⟩ : Memory.Channel)⟩ := rfl
  have hhid : twoHandles.handles.get? 1 = some ⟨1, (⟨1, "/dev/hidraw8", 5⟩ : Memory.Channel)⟩ := rfl
  have hsent := (one_call_or_none hhid rfl (.sendFeature [0x03, 0x04])).1 rfl _ (.sendFeature (by decide))
  have hidle := (one_call_or_none hhid rfl (.hidWrite [0x03])).2.1 rfl 0 rfl
  have hrefused := (one_call_or_none hserial rfl (.sendFeature [0x03, 0x04])).2.2 (.inl nofun)
  exact ⟨(congrArg (·.state.platform.calls) hsent.1).trans hsent.2.calls, hidle, hrefused⟩

end Hub

end Hotplug
