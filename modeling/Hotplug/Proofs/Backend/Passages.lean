import Hotplug.Proofs.Backend.Dealings
/-!
# What passes between devices in memory and their users

Channels are opened and closed, bytes are written to them and read from them, and input is injected at
a path. Whatever is dealt with one path, the devices at other paths and the input that waits for them
stay as they are.

## Main definitions

* `Hotplug.Memory.Passage`, `Hotplug.Memory.Dealing.passage?`: what passes in a dealing.
* `Hotplug.Memory.Dealing.path?`: the path that a dealing is about.
* `Hotplug.Memory.Effect`: everything that a dealing can do to pipes and devices.
* `Hotplug.Memory.Apart`: the device at a path, and the pipes there, are left alone.

## Main statements

* `Hotplug.Memory.Dealing.respects`: what the operations of the platform and touches respect, dealings
  respect.
* `Hotplug.Memory.Dealing.effect`: one dealing.
* `Hotplug.Memory.Effect.apart`: what it does not do.
-/

namespace Hotplug.Memory

/-- What passes. -/
inductive Passage
  | opened (channel : Channel)
  | closed (channel : Channel)
  | wrote (channel : Channel) (data : Bytes)
  | received (channel : Channel) (data : Bytes)
  | injected (path : String) (data : Bytes)
  deriving DecidableEq, Repr

/-- The channel that was open before, and on which it passes. -/
def Passage.channel? : Passage → Option Channel
  | closed channel | wrote channel _ | received channel _ => some channel
  | opened _ | injected .. => none

variable {memory later : Memory}

namespace Dealing

/-- The channel that is used. -/
def channel? : Dealing → Option Channel
  | call (.read channel _ _) => some channel
  | call (.write channel _) => some channel
  | call (.configure channel _) => some channel
  | call (.reportDescriptor channel) => some channel
  | call (.sendFeature channel _) => some channel
  | call (.getFeature channel _ _) => some channel
  | close channel => some channel
  | _ => none

/-- The path that the dealing is about. -/
def path? : Dealing → Option String
  | call (.open_ info) => some info.path
  | inject path _ => some path
  | setReportDescriptor path _ => some path
  | dealing => dealing.channel?.map Channel.path

/-- What passes. Nothing does in a call that does not come to an answer. -/
def passage? : Dealing → Memory → Option Passage
  | call (.open_ info), memory => ((open_ info).run memory).ending.value?.map .opened
  | call (.read channel room limit), memory =>
    ((read channel room limit).run memory).ending.value?.map (.received channel)
  | call (.write channel data), memory =>
    ((write channel data).run memory).ending.value?.map fun _ => .wrote channel data
  | close channel, _ => some (.closed channel)
  | inject path data, _ => some (.injected path data)
  | _, _ => none

theorem channel?_of_passage {dealing : Dealing} {channel : Channel}
    (h : (dealing.passage? memory).bind Passage.channel? = some channel) :
    dealing.channel? = some channel := by
  obtain ⟨passage, hpassage, hchannel⟩ := Option.bind_eq_some_iff.1 h
  cases dealing with
  | call request =>
    cases request with
    | open_ | read | write =>
      obtain ⟨_, -, rfl⟩ := Option.map_eq_some_iff.1 hpassage
      exact hchannel
    | enumerate | subscribe | drain | configure | reportDescriptor | sendFeature | getFeature =>
      cases hpassage
  | close | inject =>
    cases hpassage
    exact hchannel
  | unsubscribe | attach | plug | unplug | setReportDescriptor | failNext | elapse => cases hpassage

def FindsRoom : Dealing → Memory → Prop
  | call (.write channel data), memory =>
    memory.faults.get? .write = none → memory.overflow channel data = []
  | inject path data, memory =>
    ∀ name pipe, memory.pipes.get? name = some pipe → pipe.path = path → (pipe.inbox.send data).2 = []
  | _, _ => True

/-- What the operations of the platform and touches respect, dealings respect. -/
theorem respects {relation : Memory → Memory → Prop}
    (hframe : Platform.Frame relation fun _ => True)
    (htouch : ∀ change, Touch change → relation memory (change memory)) (dealing : Dealing) :
    relation memory (dealing.after memory) := by
  cases dealing with
  | call request =>
    cases request with
    | enumerate filter => exact hframe.enumerate () filter memory
    | subscribe => exact hframe.subscribe () {} memory
    | drain subscriber => exact hframe.drain subscriber memory trivial
    | open_ info => exact hframe.openChannel () info memory
    | read channel room limit => exact htouch _ (.read channel room limit)
    | write channel data => exact htouch _ (.write channel data)
    | configure channel settings => exact htouch _ (.configure channel settings)
    | reportDescriptor channel => exact htouch _ (.reportDescriptor channel)
    | sendFeature channel report => exact htouch _ (.sendFeature channel report)
    | getFeature channel number buffer => exact htouch _ (.getFeature channel number buffer)
  | unsubscribe subscriber => exact hframe.unsubscribe subscriber memory trivial
  | close channel => exact hframe.closeChannel channel memory
  | attach info => exact htouch _ (.attach info)
  | plug info => exact htouch _ (.plug info)
  | unplug key => exact htouch _ (.unplug key)
  | inject path data => exact htouch _ (.inject path data)
  | setReportDescriptor path descriptor => exact htouch _ (.setReportDescriptor path descriptor)
  | failNext fault => exact htouch _ (.failNext fault)
  | elapse clock => exact htouch _ (.elapse clock)

theorem separate (h : memory.Separate) (dealing : Dealing) : (dealing.after memory).Separate := by
  refine dealing.respects frame_separate (fun change htouch h => ?_) h
  obtain ⟨_, hpublishes⟩ := htouch.publishes
  exact hpublishes.separate h

theorem onward (h : memory.Fresh) (dealing : Dealing) : memory.Onward (dealing.after memory) := by
  refine dealing.respects frame_fresh (fun change htouch h => ?_) h
  have hgrows := htouch.grows memory
  exact ⟨hgrows.fresh h, Nat.le_of_eq hgrows.next.symm⟩

end Dealing

/-! ### Effects -/

/-- Everything that a dealing about a path can do to pipes and devices, with what passes. -/
inductive Effect (memory later : Memory) : Option String → Option Passage → Prop
  /-- Nothing passes. Only the settings, the report descriptor and the feature reports of the device at
  the path may change. -/
  | still {path? : Option String} (hpipes : later.pipes = memory.pipes)
    (hdevice : ∀ path, path? ≠ some path → later.device path = memory.device path)
    (hwritten : ∀ path, (later.device path).written = (memory.device path).written) :
    Effect memory later path? none
  /-- A channel is opened. -/
  | opened (info : Info)
    (hpipes : later.pipes = memory.pipes.insert memory.next
      { path := info.path, host := memory.newPair.1, device := memory.newPair.2 })
    (hnext : later.next = memory.next + 1)
    (hdevice : ∀ path, later.device path = memory.device path) :
    Effect memory later (some info.path) (some (.opened (memory.nextChannel info)))
  /-- A channel is closed. -/
  | closed (channel : Channel) (hpipes : later.pipes = memory.pipes.erase channel.id)
    (hdevice : ∀ path, later.device path = memory.device path) :
    Effect memory later (some channel.path) (some (.closed channel))
  /-- No input came in time. -/
  | silent (channel : Channel) (hpipes : later.pipes = memory.pipes)
    (hdevice : ∀ path, later.device path = memory.device path) :
    Effect memory later (some channel.path) (some (.received channel []))
  /-- Input was taken. -/
  | received (channel : Channel) (room : Nat)
    (hpipes : later.pipes = memory.pipes.update channel.id fun pipe =>
      { pipe with inbox := (pipe.inbox.receive room).2 })
    (hdevice : ∀ path, later.device path = memory.device path) :
    Effect memory later (some channel.path) (some (.received channel
      (((memory.pipes.get? channel.id).map fun pipe => (pipe.inbox.receive room).1).getD [])))
  /-- Data was written, all of which comes back. -/
  | wrote (channel : Channel) (data : Bytes)
    (hpipes : later.pipes = memory.pipes.update channel.id fun pipe =>
      { pipe with inbox := (pipe.inbox.send data).1 })
    (hroom : memory.overflow channel data = [])
    (hdevice : ∀ path, later.device path =
      if path = channel.path then
        { memory.device path with written := (memory.device path).written ++ data }
      else memory.device path) :
    Effect memory later (some channel.path) (some (.wrote channel data))
  /-- Input was injected, all of it into every channel at the path. -/
  | injected (path : String) (data : Bytes)
    (hpipes : later.pipes = memory.pipes.map fun pipe =>
      if pipe.path = path then { pipe with inbox := (pipe.inbox.send data).1 } else pipe)
    (hroom : ∀ name pipe, memory.pipes.get? name = some pipe → pipe.path = path →
      (pipe.inbox.send data).2 = [])
    (hdevice : ∀ other, later.device other = memory.device other) :
    Effect memory later (some path) (some (.injected path data))

/-- A call that is counted and comes to nothing else, as far as pipes and devices go. -/
theorem Effect.quiet {path? : Option String} (hpipes : later.pipes = memory.pipes)
    (hdevices : later.devices = memory.devices) : Effect memory later path? none := by
  have hdevice (path : String) : later.device path = memory.device path := by
    rw [device, hdevices, device]
  exact .still hpipes (fun path _ => hdevice path) fun path => by rw [hdevice]

/-- A change of a device that leaves what was written to it. -/
theorem Effect.altered {path : String} (f : MemoryDevice → MemoryDevice)
    (hkeeps : ∀ kept, (f kept).written = kept.written) (hpipes : later.pipes = memory.pipes)
    (hdevices : later.devices = (memory.alter path f).devices) :
    Effect memory later (some path) none := by
  have hdevice (other : String) : later.device other =
      if other = path then f (memory.device other) else memory.device other := by
    rw [← device_alter, device, hdevices, device]
  refine .still hpipes (fun other hne => ?_) fun other => ?_
  · rw [hdevice, if_neg]
    rintro rfl
    exact hne rfl
  · rw [hdevice]
    split
    · exact hkeeps _
    · rfl

namespace Dealing

theorem passage?_of_fault {request : Call} {code : Code}
    (h : memory.faults.get? request.operation = some code) : passage? (.call request) memory = none := by
  have hfails {α : Type} (rest : Unit → Action Memory α) (f : α → Passage) :
      ((enter request.operation >>= rest).run memory).ending.value?.map f = none := by
    rw [(Action.Ends.bind_failed (enter_of_some h)).1]
    rfl
  cases request with
  | open_ info => exact hfails _ .opened
  | read channel room limit => exact hfails _ (.received channel)
  | write channel data => exact hfails _ fun _ => .wrote channel data
  | _ => rfl

theorem effect_open (info : Info) :
    Effect memory ((Call.open_ info).after memory) (some info.path)
      (passage? (.call (.open_ info)) memory) := by
  rcases open_cases info memory with ⟨hending, hstate⟩ | ⟨failure, hending, hstate⟩
  · rw [passage?, hending, Call.after, show (Call.open_ info).action = open_ info from rfl, hstate]
    exact .opened info rfl rfl (device_alter_id (memory.entered .openDevice) info.path)
  · rw [passage?, hending, Call.after, show (Call.open_ info).action = open_ info from rfl, hstate]
    exact .quiet rfl rfl

theorem effect_read (channel : Channel) (room : Nat) (limit : Int) :
    Effect memory ((Call.read channel room limit).after memory) (some channel.path)
      (passage? (.call (.read channel room limit)) memory) := by
  rw [passage?, Call.after, show (Call.read channel room limit).action = read channel room limit from rfl]
  cases read_cases channel room limit memory with
  | faulted code _ hends =>
    rw [hends.1, hends.2]
    exact .quiet rfl rfl
  | silent clock _ _ _ hends =>
    rw [hends.1, hends.2]
    exact .silent channel rfl fun _ => rfl
  | endless clock _ _ _ hends =>
    rw [hends.1, hends.2]
    exact .quiet rfl rfl
  | roomless clock _ _ _ hends =>
    rw [hends.1, hends.2]
    exact .quiet rfl rfl
  | taken clock _ _ _ hends =>
    rw [hends.1, hends.2]
    exact .received channel room rfl fun _ => rfl

theorem effect_write (h : memory.faults.get? .write = none) {channel : Channel} {data : Bytes}
    (hroom : memory.overflow channel data = []) :
    Effect memory ((Call.write channel data).after memory) (some channel.path)
      (passage? (.call (.write channel data)) memory) := by
  obtain ⟨hending, hstate⟩ := write_of_none h channel data
  rw [hroom] at hending
  rw [passage?, Call.after, show (Call.write channel data).action = write channel data from rfl, hending,
    hstate]
  exact .wrote channel data rfl hroom fun path =>
    device_alter (memory.entered .write) channel.path path fun kept =>
      { kept with written := kept.written ++ data }

/-- What a call does for which no fault waits. -/
theorem effect_call {request : Call} (h : memory.faults.get? request.operation = none)
    (hroom : (call request).FindsRoom memory) :
    Effect memory (request.after memory) (call request).path? (passage? (.call request) memory) := by
  have hstate (request : Call) {ending : Ending request.Answer} {left : Memory}
      (hends : request.action.Ends memory ending left) : request.after memory = left := hends.2
  cases request with
  | enumerate filter =>
    rw [hstate (.enumerate filter) (ends_of_none h (.bind ⟨rfl, rfl⟩ ⟨rfl, rfl⟩))]
    exact .quiet rfl rfl
  | subscribe =>
    rw [hstate .subscribe (ends_of_none h ⟨rfl, rfl⟩)]
    exact .quiet rfl rfl
  | drain subscriber =>
    rw [hstate (.drain subscriber) (drain_of_none h)]
    exact .quiet rfl rfl
  | open_ info => exact effect_open info
  | read channel room limit => exact effect_read channel room limit
  | write channel data => exact effect_write h (hroom h)
  | configure channel settings =>
    rw [hstate (.configure channel settings) (ends_of_none h ⟨rfl, rfl⟩)]
    exact .altered ({ · with settings := some settings }) (fun _ => rfl) rfl rfl
  | reportDescriptor channel =>
    rw [hstate (.reportDescriptor channel) (ends_of_none h (.bind ⟨rfl, rfl⟩ ⟨rfl, rfl⟩))]
    exact .quiet rfl rfl
  | sendFeature channel report =>
    rw [hstate (.sendFeature channel report) (ends_of_none h (Action.ends_run _ _))]
    cases report.head? with
    | none => exact .quiet rfl rfl
    | some number =>
      exact .altered (fun kept => { kept with features := kept.features.insert number report })
        (fun _ => rfl) rfl rfl
  | getFeature channel number buffer =>
    rw [hstate (.getFeature channel number buffer)
      (ends_of_none h (.bind ⟨rfl, rfl⟩ (Action.ends_run _ _)))]
    cases ((memory.entered .featureReport).device channel.path).features.get? number with
    | none => exact .quiet rfl rfl
    | some report => exact .quiet rfl rfl

/-- Everything that a dealing can do, if all that is sent finds room. -/
theorem effect {dealing : Dealing} (hroom : dealing.FindsRoom memory) :
    Effect memory (dealing.after memory) dealing.path? (dealing.passage? memory) := by
  cases dealing with
  | call request =>
    cases hfault : memory.faults.get? request.operation with
    | none => exact effect_call hfault hroom
    | some code =>
      rw [passage?_of_fault hfault, after, (Call.fails_of_fault hfault).2]
      exact .quiet rfl rfl
  | close channel => exact .closed channel rfl fun _ => rfl
  | inject path data => exact .injected path data rfl hroom fun _ => rfl
  | setReportDescriptor path descriptor =>
    exact .altered ({ · with reportDescriptor := descriptor }) (fun _ => rfl) rfl rfl
  | unsubscribe | attach | plug | unplug | failNext | elapse => exact .quiet rfl rfl

end Dealing

/-! ### Paths that a dealing is not about -/

/-- What is kept of the device at a path is as it was, and so is every pipe there, with the input that
waits in it. -/
structure Apart (path : String) (memory later : Memory) : Prop where
  device : later.device path = memory.device path
  pipes : ∀ name pipe, pipe.path = path →
    (later.pipes.get? name = some pipe ↔ memory.pipes.get? name = some pipe)

theorem Apart.of_changed {name : Nat} {path : String} {now : Option Pipe}
    (hdevice : later.device path = memory.device path)
    (hget : ∀ other, later.pipes.get? other = if other = name then now else memory.pipes.get? other)
    (hnow : ∀ pipe, now = some pipe → pipe.path ≠ path)
    (hbefore : ∀ pipe, memory.pipes.get? name = some pipe → pipe.path ≠ path) :
    Apart path memory later := by
  refine ⟨hdevice, fun other pipe hpath => ?_⟩
  rw [hget]
  split
  · next heq =>
    subst heq
    exact ⟨fun h => absurd hpath (hnow _ h), fun h => absurd hpath (hbefore _ h)⟩
  · rfl

theorem Apart.of_updated {channel : Channel} {path : String} {f : Pipe → Conduit}
    (hne : channel.path ≠ path) (hdevice : later.device path = memory.device path)
    (hpipes : later.pipes = memory.pipes.update channel.id fun pipe => { pipe with inbox := f pipe })
    (hused : ∀ pipe, memory.pipes.get? channel.id = some pipe → pipe.path = channel.path) :
    Apart path memory later := by
  have hget (other : Nat) : later.pipes.get? other =
      if other = channel.id then
        (memory.pipes.get? channel.id).map fun pipe => { pipe with inbox := f pipe }
      else memory.pipes.get? other := by
    rw [hpipes, Table.get?_update]
    split
    · next heq => rw [heq]
    · rfl
  refine .of_changed hdevice hget (fun pipe hpipe => ?_) fun pipe hpipe => ?_
  · obtain ⟨before, hbefore, rfl⟩ := Option.map_eq_some_iff.1 hpipe
    exact (hused before hbefore).trans_ne hne
  · exact (hused pipe hpipe).trans_ne hne

/-- A dealing on one path leaves the others alone. The pipe of the channel that is used must be at the
path of the channel. -/
theorem Effect.apart {path? : Option String} {passage? : Option Passage}
    (heffect : Effect memory later path? passage?) (hfresh : memory.Fresh) {path : String}
    (hne : path? ≠ some path)
    (hused : ∀ channel, passage?.bind Passage.channel? = some channel →
      ∀ pipe, memory.pipes.get? channel.id = some pipe → pipe.path = channel.path) :
    Apart path memory later := by
  have hother {at_ : String} (heq : path? = some at_) : at_ ≠ path := by
    rintro rfl
    exact hne heq
  cases heffect with
  | still hpipes hdevice hwritten => exact ⟨hdevice path hne, fun _ _ _ => hpipes ▸ .rfl⟩
  | silent channel hpipes hdevice => exact ⟨hdevice path, fun _ _ _ => hpipes ▸ .rfl⟩
  | opened info hpipes hnext hdevice =>
    refine .of_changed (hdevice path) (fun other => hpipes ▸ Table.get?_insert ..) ?_ ?_
    · rintro _ ⟨⟩
      exact hother rfl
    · intro pipe hpipe
      rw [hfresh.pipes _ (Nat.le_refl _)] at hpipe
      cases hpipe
  | closed channel hpipes hdevice =>
    refine .of_changed (hdevice path) (fun other => hpipes ▸ Table.get?_erase ..) ?_ fun pipe hpipe => ?_
    · exact nofun
    · exact (hused channel rfl pipe hpipe).trans_ne (hother rfl)
  | received channel room hpipes hdevice =>
    exact .of_updated (hother rfl) (hdevice path) hpipes (hused channel rfl)
  | wrote channel data hpipes hroom hdevice =>
    refine .of_updated (hother rfl) ?_ hpipes (hused channel rfl)
    rw [hdevice, if_neg (hother rfl).symm]
  | injected at_ data hpipes hroom hdevice =>
    refine ⟨hdevice path, fun name pipe hpath => ?_⟩
    rw [hpipes, Table.get?_map, Option.map_eq_some_iff]
    constructor
    · rintro ⟨before, hbefore, rfl⟩
      split at hpath
      · next hat => exact absurd (hat.symm.trans hpath) (hother rfl)
      · next hat => rwa [if_neg hat]
    · intro hpipe
      exact ⟨pipe, hpipe, if_neg fun hat => hother rfl (hat.symm.trans hpath)⟩

end Hotplug.Memory
