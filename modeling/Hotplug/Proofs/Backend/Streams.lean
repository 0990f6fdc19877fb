import Hotplug.Backend.Sample
import Hotplug.Proofs.Backend.Passages
/-!
# Channels of devices in memory as streams

Everything written to a channel comes back on it, and everything injected at its path comes in on it
while it is open. It is read in the order in which it came, in pieces of any size, and nothing is lost,
doubled or mixed up with the input of other channels. What is written to a device is kept as well,
whichever channel it came from.

## Main definitions

* `Hotplug.Memory.Account`, `Hotplug.Memory.accountOf`: the account of one channel.
* `Hotplug.Memory.writtenTo`: what was written to one path.
* `Hotplug.Memory.waiting`: the input that waits for a channel.
* `Hotplug.Memory.Run`: dealings one after the other, with what passed in them.
* `Hotplug.Memory.Flows`: a pipe agrees with the account of its channel.

## Main statements

* `Hotplug.Memory.Separate.isQuiet_host`: the descriptor of a channel.
* `Hotplug.Memory.Carries.step`, `Hotplug.Memory.Run.carries`: one dealing, and any number of them.
* `Hotplug.Memory.Run.streams_exact`
-/

namespace Hotplug

/-- What finds room as a whole waits behind what waited before. -/
theorem Conduit.pending_of_sent (conduit : Conduit) {data : Bytes} (h : (conduit.send data).2 = []) :
    (conduit.send data).1.pending = conduit.pending ++ data := by
  have hall := conduit.pending_send data
  rwa [h, List.append_nil] at hall

namespace Memory

/-- The account of one channel: whether it is open, what was sent to it, and what was received. -/
structure Account where
  isOpen : Bool := false
  /-- What was written, and what was injected while the channel was open. -/
  sent : Bytes := []
  received : Bytes := []
  deriving DecidableEq, Repr

/-- What a passage means to a channel. -/
def Account.note (channel : Channel) (account : Account) : Passage → Account
  | .opened other => if other = channel then { account with isOpen := true } else account
  | .closed other => if other = channel then { account with isOpen := false } else account
  | .wrote other data =>
    if other = channel then { account with sent := account.sent ++ data } else account
  | .received other data =>
    if other = channel then { account with received := account.received ++ data } else account
  | .injected path data =>
    if account.isOpen ∧ channel.path = path then { account with sent := account.sent ++ data }
    else account

def accountOf (channel : Channel) (passages : List Passage) : Account :=
  passages.foldl (Account.note channel) {}

/-- What was written to a path on any channel, oldest first. -/
def writtenTo (path : String) (passages : List Passage) : Bytes :=
  passages.flatMap fun
    | .wrote channel data => if channel.path = path then data else []
    | _ => []

/-- The input that waits for a channel. -/
def waiting (memory : Memory) (channel : Channel) : Bytes :=
  ((memory.pipes.get? channel.id).map (·.inbox.pending)).getD []

/-- After what has passed, the dealing can be done: its channel is open, and there is room for all that
it sends. -/
structure Dealing.Fits (dealing : Dealing) (memory : Memory) (passages : List Passage) : Prop where
  isOpen : ∀ channel, dealing.channel? = some channel → (accountOf channel passages).isOpen = true
  room : dealing.FindsRoom memory

/-- From new devices, dealings were done one after the other, and this passed in them. -/
inductive Run : Memory → List Passage → Prop
  | start : Run {} []
  | step {memory : Memory} {passages : List Passage} (h : Run memory passages) (dealing : Dealing)
    (hfits : dealing.Fits memory passages) :
    Run (dealing.after memory) (passages ++ (dealing.passage? memory).toList)

variable {memory later : Memory} {passages : List Passage} {channel other : Channel}

/-! ### Accounts -/

theorem accountOf_concat (channel : Channel) (passages : List Passage) (passage : Passage) :
    accountOf channel (passages ++ [passage]) = (accountOf channel passages).note channel passage := by
  simp [accountOf]

theorem writtenTo_append (path : String) (passages more : List Passage) :
    writtenTo path (passages ++ more) = writtenTo path passages ++ writtenTo path more := by
  simp [writtenTo]

theorem Account.note_of_ne (account : Account) {passage : Passage} (h : passage.channel? = some other)
    (hne : other ≠ channel) : account.note channel passage = account := by
  cases passage with
  | closed | wrote | received =>
    cases h
    exact if_neg hne
  | opened | injected => cases h

/-! ### The descriptor of a channel -/

theorem Separate.nodup_pipes (h : memory.Separate) :
    (memory.pipes.values.flatMap fun pipe => [pipe.host, pipe.device]).Nodup :=
  (List.nodup_append.1 h.descriptors).2.1

/-- The descriptor of a channel is open, and it has input exactly while bytes wait in its pipe. -/
theorem Separate.isQuiet_host (h : memory.Separate) {name : Nat} {pipe : Pipe}
    (hpipe : memory.pipes.get? name = some pipe) :
    memory.isQuiet pipe.host = true ↔ pipe.inbox.pending = [] := by
  have hmem : pipe ∈ memory.pipes.values := Table.mem_values_of_get? hpipe
  have hhost : pipe.host ∈ [pipe.host, pipe.device] := by simp
  rw [isQuiet, Bool.or_eq_true, List.any_eq_true, List.any_eq_true, ← Conduit.isEmpty_iff]
  constructor
  · rintro (⟨box, hbox, hends⟩ | ⟨other, hother, hends⟩)
    · -- No mailbox has a descriptor of a pipe.
      have hdisjoint := (List.nodup_append.1 h.descriptors).2.2
      have hbox' : pipe.host ∈ memory.mailboxes.values.flatMap fun box => [box.signal, box.receiver] := by
        refine List.mem_flatMap.2 ⟨box, hbox, ?_⟩
        simp only [Bool.or_eq_true, Bool.and_eq_true, beq_iff_eq] at hends
        grind
      exact absurd rfl (hdisjoint _ (List.mem_append_left _ hbox') pipe.host
        (List.mem_flatMap.2 ⟨pipe, hmem, hhost⟩))
    · simp only [Bool.or_eq_true, Bool.and_eq_true, beq_iff_eq] at hends
      have heq : other = pipe := eq_of_mem_flatMap h.nodup_pipes hmem hother hhost (by grind)
      subst heq
      rcases hends with hdevice | ⟨-, hempty⟩
      · -- The two descriptors of a pipe differ.
        have hpair := (List.nodup_flatMap.1 h.nodup_pipes).1 other hmem
        simp [hdevice] at hpair
      · exact hempty
  · intro hempty
    exact .inr ⟨pipe, hmem, by simp [hempty]⟩

/-! ### Pipes and accounts -/

/-- The pipe of a channel holds what was sent to it and not received. -/
def Flows (memory : Memory) (account : Account) (channel : Channel) : Prop :=
  ∃ pipe, memory.pipes.get? channel.id = some pipe ∧ pipe.path = channel.path ∧
    pipe.host = channel.host ∧ account.sent = account.received ++ pipe.inbox.pending

/-- What was received is the beginning of what was sent, and the rest waits while the channel is open. -/
structure Honours (memory : Memory) (account : Account) (channel : Channel) : Prop where
  taken : account.received <+: account.sent
  flows : account.isOpen = true → memory.Flows account channel

variable {account : Account}

theorem Honours.keep (h : memory.Honours account channel)
    (hpipe : account.isOpen = true →
      later.pipes.get? channel.id = memory.pipes.get? channel.id) : later.Honours account channel := by
  refine ⟨h.taken, fun hopen => ?_⟩
  obtain ⟨pipe, hget, hrest⟩ := h.flows hopen
  exact ⟨pipe, (hpipe hopen).trans hget, hrest⟩

theorem Flows.eq_of_id {second : Account} (h : memory.Flows account channel)
    (hother : memory.Flows second other) (hid : other.id = channel.id) : other = channel := by
  obtain ⟨pipe, hget, hpath, hhost, -⟩ := h
  obtain ⟨_, hget', hpath', hhost', -⟩ := hother
  rw [hid, hget] at hget'
  cases hget'
  cases other
  cases channel
  simp_all

theorem Flows.lt_next (h : memory.Flows account channel) (hfresh : memory.Fresh) :
    channel.id < memory.next := by
  obtain ⟨pipe, hget, -⟩ := h
  by_contra hle
  rw [hfresh.pipes _ (Nat.le_of_not_lt hle)] at hget
  cases hget

/-- Everything that is so after any number of dealings. -/
structure Carries (memory : Memory) (passages : List Passage) : Prop where
  separate : memory.Separate
  fresh : memory.Fresh
  /-- Nothing passed on channels that are still to be opened. -/
  unborn : ∀ channel : Channel, memory.next ≤ channel.id → accountOf channel passages = {}
  honours : ∀ channel, memory.Honours (accountOf channel passages) channel
  written : ∀ path, (memory.device path).written = writtenTo path passages

theorem carries_empty : ({} : Memory).Carries [] where
  separate := separate_empty
  fresh := ⟨fun _ _ => rfl, fun _ _ => rfl⟩
  unborn _ _ := rfl
  honours _ := ⟨List.prefix_rfl, nofun⟩
  written _ := rfl

section Steps

variable (h : memory.Carries passages)
include h

/-- Of two channels one is open. If the other one is not the same, it has a pipe of another name. -/
theorem Carries.id_ne (hused : (accountOf other passages).isOpen = true) (hne : other ≠ channel)
    (hopen : (accountOf channel passages).isOpen = true) : channel.id ≠ other.id := fun hid =>
  hne (((h.honours channel).flows hopen).eq_of_id ((h.honours other).flows hused) hid.symm)

theorem Carries.honours_opened {info : Info}
    (hpipes : later.pipes = memory.pipes.insert memory.next
      { path := info.path, host := memory.newPair.1, device := memory.newPair.2 }) (channel : Channel) :
    later.Honours ((accountOf channel passages).note channel (.opened (memory.nextChannel info)))
      channel := by
  by_cases heq : memory.nextChannel info = channel
  · subst heq
    -- The name is new, so nothing has passed under it.
    have hnew : accountOf (memory.nextChannel info) passages = {} := h.unborn _ (Nat.le_refl _)
    have hget : later.pipes.get? memory.next =
        some { path := info.path, host := memory.newPair.1, device := memory.newPair.2 } := by
      rw [hpipes, Table.get?_insert, if_pos rfl]
    rw [hnew, Account.note, if_pos rfl]
    exact ⟨List.prefix_rfl, fun _ => ⟨_, hget, rfl, rfl, rfl⟩⟩
  · rw [Account.note, if_neg heq]
    refine (h.honours channel).keep fun hopen => ?_
    have hlt := ((h.honours channel).flows hopen).lt_next h.fresh
    rw [hpipes, Table.get?_insert, if_neg (Nat.ne_of_lt hlt)]

theorem Carries.honours_closed (hused : (accountOf other passages).isOpen = true)
    (hpipes : later.pipes = memory.pipes.erase other.id) (channel : Channel) :
    later.Honours ((accountOf channel passages).note channel (.closed other)) channel := by
  by_cases heq : other = channel
  · subst heq
    rw [Account.note, if_pos rfl]
    exact ⟨(h.honours other).taken, nofun⟩
  · rw [Account.note_of_ne _ rfl heq]
    refine (h.honours channel).keep fun hopen => ?_
    rw [hpipes, Table.get?_erase, if_neg (h.id_ne hused heq hopen)]

theorem Carries.honours_of_ne (hused : (accountOf other passages).isOpen = true) (hne : other ≠ channel)
    {f : Pipe → Pipe} (hpipes : later.pipes = memory.pipes.update other.id f) :
    later.Honours (accountOf channel passages) channel := by
  refine (h.honours channel).keep fun hopen => ?_
  rw [hpipes, Table.get?_update, if_neg (h.id_ne hused hne hopen)]

theorem Carries.honours_received (hused : (accountOf other passages).isOpen = true) {room : Nat}
    (hpipes : later.pipes = memory.pipes.update other.id fun pipe =>
      { pipe with inbox := (pipe.inbox.receive room).2 }) (channel : Channel) :
    later.Honours ((accountOf channel passages).note channel (.received other
      (((memory.pipes.get? other.id).map fun pipe => (pipe.inbox.receive room).1).getD []))) channel := by
  by_cases heq : other = channel
  · subst heq
    obtain ⟨pipe, hget, hpath, hhost, hsent⟩ := (h.honours other).flows hused
    have hnow : later.pipes.get? other.id =
        some { pipe with inbox := (pipe.inbox.receive room).2 } := by
      rw [hpipes, Table.get?_update, if_pos rfl, hget, Option.map_some]
    -- What is taken from the front of the pipe goes to the end of what was received.
    have hall : (accountOf other passages).sent = ((accountOf other passages).received ++
        (pipe.inbox.receive room).1) ++ (pipe.inbox.receive room).2.pending := by
      rw [List.append_assoc, pipe.inbox.receive_append_pending, hsent]
    rw [Account.note, if_pos rfl, hget, Option.map_some, Option.getD_some]
    exact ⟨⟨_, hall.symm⟩, fun _ => ⟨_, hnow, hpath, hhost, hall⟩⟩
  · rw [Account.note_of_ne _ rfl heq]
    exact h.honours_of_ne hused heq hpipes

theorem Carries.honours_wrote (hused : (accountOf other passages).isOpen = true) {data : Bytes}
    (hroom : memory.overflow other data = [])
    (hpipes : later.pipes = memory.pipes.update other.id fun pipe =>
      { pipe with inbox := (pipe.inbox.send data).1 }) (channel : Channel) :
    later.Honours ((accountOf channel passages).note channel (.wrote other data)) channel := by
  by_cases heq : other = channel
  · subst heq
    obtain ⟨pipe, hget, hpath, hhost, hsent⟩ := (h.honours other).flows hused
    have hnow : later.pipes.get? other.id = some { pipe with inbox := (pipe.inbox.send data).1 } := by
      rw [hpipes, Table.get?_update, if_pos rfl, hget, Option.map_some]
    rw [overflow, hget, Option.map_some, Option.getD_some] at hroom
    have hall : (accountOf other passages).sent ++ data =
        (accountOf other passages).received ++ (pipe.inbox.send data).1.pending := by
      rw [pipe.inbox.pending_of_sent hroom, hsent, List.append_assoc]
    rw [Account.note, if_pos rfl]
    exact ⟨(h.honours other).taken.trans (List.prefix_append _ _), fun _ =>
      ⟨_, hnow, hpath, hhost, hall⟩⟩
  · rw [Account.note_of_ne _ rfl heq]
    exact h.honours_of_ne hused heq hpipes

theorem Carries.honours_injected {path : String} {data : Bytes}
    (hroom : ∀ name pipe, memory.pipes.get? name = some pipe → pipe.path = path →
      (pipe.inbox.send data).2 = [])
    (hpipes : later.pipes = memory.pipes.map fun pipe =>
      if pipe.path = path then { pipe with inbox := (pipe.inbox.send data).1 } else pipe)
    (channel : Channel) :
    later.Honours ((accountOf channel passages).note channel (.injected path data)) channel := by
  obtain ⟨htaken, hflows⟩ := h.honours channel
  rw [Account.note]
  split
  · next hhere =>
    obtain ⟨hopen, hpath⟩ := hhere
    obtain ⟨pipe, hget, hat, hhost, hsent⟩ := hflows hopen
    have hnow : later.pipes.get? channel.id = some { pipe with inbox := (pipe.inbox.send data).1 } := by
      rw [hpipes, Table.get?_map, hget, Option.map_some, if_pos (hat.trans hpath)]
    have hall : (accountOf channel passages).sent ++ data =
        (accountOf channel passages).received ++ (pipe.inbox.send data).1.pending := by
      rw [pipe.inbox.pending_of_sent (hroom _ pipe hget (hat.trans hpath)), hsent, List.append_assoc]
    exact ⟨htaken.trans (List.prefix_append _ _), fun _ => ⟨_, hnow, hat, hhost, hall⟩⟩
  · next helse =>
    refine (h.honours channel).keep fun hopen => ?_
    obtain ⟨pipe, hget, hat, -⟩ := hflows hopen
    have hne : pipe.path ≠ path := fun heq => helse ⟨hopen, hat.symm.trans heq⟩
    rw [hpipes, Table.get?_map, hget, Option.map_some, if_neg hne]

end Steps

/-! ### One dealing, and any number -/

section Dealings

variable {path? : Option String} {passage? : Option Passage}

theorem Effect.written (heffect : Effect memory later path? passage?) (path : String) :
    (later.device path).written = (memory.device path).written ++ writtenTo path passage?.toList := by
  cases heffect with
  | still _ _ hwritten => exact (hwritten path).trans (List.append_nil _).symm
  | opened _ _ _ hdevice | closed _ _ hdevice | silent _ _ hdevice | received _ _ _ hdevice
    | injected _ _ _ _ hdevice =>
    rw [hdevice]
    exact (List.append_nil _).symm
  | wrote channel data _ _ hdevice =>
    rw [hdevice]
    by_cases hpath : channel.path = path
    · simp [writtenTo, hpath]
    · simp [writtenTo, hpath, Ne.symm hpath]

variable (heffect : Effect memory later path? passage?) (h : memory.Carries passages)
  (hused : ∀ used, passage?.bind Passage.channel? = some used →
    (accountOf used passages).isOpen = true)
include heffect h hused

theorem Effect.honours (channel : Channel) :
    later.Honours (accountOf channel (passages ++ passage?.toList)) channel := by
  cases heffect with
  | still hpipes =>
    rw [Option.toList_none, List.append_nil]
    exact (h.honours channel).keep fun _ => congrArg (·.get? channel.id) hpipes
  | opened info hpipes =>
    rw [Option.toList_some, accountOf_concat]
    exact h.honours_opened hpipes channel
  | closed used hpipes =>
    rw [Option.toList_some, accountOf_concat]
    exact h.honours_closed (hused used rfl) hpipes channel
  | silent used hpipes =>
    have hsame : (accountOf channel passages).note channel (.received used []) =
        accountOf channel passages := by simp [Account.note]
    rw [Option.toList_some, accountOf_concat, hsame]
    exact (h.honours channel).keep fun _ => congrArg (·.get? channel.id) hpipes
  | received used room hpipes =>
    rw [Option.toList_some, accountOf_concat]
    exact h.honours_received (hused used rfl) hpipes channel
  | wrote used data hpipes hroom =>
    rw [Option.toList_some, accountOf_concat]
    exact h.honours_wrote (hused used rfl) hroom hpipes channel
  | injected path data hpipes hroom =>
    rw [Option.toList_some, accountOf_concat]
    exact h.honours_injected hroom hpipes channel

theorem Effect.unborn (honward : memory.Onward later) (channel : Channel)
    (hchannel : later.next ≤ channel.id) : accountOf channel (passages ++ passage?.toList) = {} := by
  have hbefore : accountOf channel passages = {} :=
    h.unborn channel (Nat.le_trans honward.2 hchannel)
  have hother (used : Channel) (h' : passage?.bind Passage.channel? = some used) : used ≠ channel := by
    rintro rfl
    have hopen := hused _ h'
    rw [hbefore] at hopen
    cases hopen
  cases heffect with
  | still => rwa [Option.toList_none, List.append_nil]
  | opened info _ hnext =>
    rw [Option.toList_some, accountOf_concat, hbefore, Account.note, if_neg]
    rintro rfl
    change later.next ≤ memory.next at hchannel
    omega
  | closed used | silent used | received used | wrote used =>
    rw [Option.toList_some, accountOf_concat, hbefore, Account.note_of_ne _ rfl (hother used rfl)]
  | injected path data =>
    rw [Option.toList_some, accountOf_concat, hbefore]
    simp [Account.note]

end Dealings

theorem Carries.step (h : memory.Carries passages) {dealing : Dealing}
    (hfits : dealing.Fits memory passages) :
    (dealing.after memory).Carries (passages ++ (dealing.passage? memory).toList) := by
  have heffect := dealing.effect hfits.room
  have honward := dealing.onward h.fresh
  have hused (used : Channel) (hpassage : (dealing.passage? memory).bind Passage.channel? = some used) :
      (accountOf used passages).isOpen = true :=
    hfits.isOpen used (Dealing.channel?_of_passage hpassage)
  refine ⟨dealing.separate h.separate, honward.1, heffect.unborn h hused honward,
    heffect.honours h hused, fun path => ?_⟩
  rw [heffect.written path, h.written path, writtenTo_append]

theorem Run.carries (h : Run memory passages) : memory.Carries passages := by
  induction h with
  | start => exact carries_empty
  | step h dealing hfits ih => exact ih.step hfits

/-! ### What is read -/

/-- Reading from an open channel, where no fault waits, takes what waits, as far as there is room. -/
theorem Carries.read_ending (h : memory.Carries passages)
    (hopen : (accountOf channel passages).isOpen = true) (hfault : memory.faults.get? .read = none)
    (room : Nat) (limit : Int) :
    ((read channel room limit).run memory).ending =
      if memory.waiting channel = [] then if limit < 0 then .unending else .returned []
      else if room = 0 then .failed (endOfInput channel.path)
      else .returned ((memory.waiting channel).take room) := by
  obtain ⟨pipe, hget, hpath, hhost, -⟩ := (h.honours channel).flows hopen
  have hwaiting : memory.waiting channel = pipe.inbox.pending := by
    rw [waiting, hget]
    rfl
  have hquiet : memory.isQuiet channel.host = true ↔ memory.waiting channel = [] := by
    rw [hwaiting, ← hhost]
    exact h.separate.isQuiet_host hget
  cases read_cases channel room limit memory with
  | faulted code hcode => exact absurd (hcode.symm.trans hfault) nofun
  | silent clock _ hnone hlimit hends =>
    rw [hends.1, if_pos (hquiet.1 hnone), if_neg (Int.not_lt.2 hlimit)]
  | endless clock _ hnone hlimit hends => rw [hends.1, if_pos (hquiet.1 hnone), if_pos hlimit]
  | roomless clock _ hsome hroom hends =>
    have hready : memory.waiting channel ≠ [] := fun hnone => by simp [hquiet.2 hnone] at hsome
    rw [hends.1, if_neg hready, if_pos hroom]
  | taken clock _ hsome hroom hends =>
    have hready : memory.waiting channel ≠ [] := fun hnone => by simp [hquiet.2 hnone] at hsome
    rw [hends.1, if_neg hready, if_neg hroom, hget, hwaiting, Option.map_some, Option.getD_some,
      Conduit.receive_fst]

/-- After any number of dealings with new devices, whatever they were, as long as all that was sent
found room: what was received on a channel is the beginning of what was sent to it, and the rest waits
and can be read while the channel is open. What was written to a path is kept in order. A call for
which a fault waits comes to nothing but its failure, and no dealing on one path changes what is kept of
another path or waits there. -/
theorem Run.streams_exact (h : Run memory passages) :
    (∀ channel, (accountOf channel passages).received <+: (accountOf channel passages).sent) ∧
    (∀ channel, (accountOf channel passages).isOpen = true →
      (accountOf channel passages).sent =
        (accountOf channel passages).received ++ memory.waiting channel ∧
      (memory.faults.get? .read = none → ∀ room limit,
        ((read channel room limit).run memory).ending =
          if memory.waiting channel = [] then if limit < 0 then .unending else .returned []
          else if room = 0 then .failed (endOfInput channel.path)
          else .returned ((memory.waiting channel).take room)) ∧
      (memory.faults.get? .write = none → ∀ data, memory.overflow channel data = [] →
        ((write channel data).run memory).ending = .returned data.length)) ∧
    (∀ path, (memory.device path).written = writtenTo path passages) ∧
    (∀ (call : Call) code, memory.faults.get? call.operation = some code →
      call.FailsBy code memory ∧ (Dealing.call call).passage? memory = none ∧
        memory.Unharmed [call.operation] [] (call.after memory)) ∧
    (∀ dealing : Dealing, dealing.Fits memory passages → ∀ path, dealing.path? ≠ some path →
      Apart path memory (dealing.after memory)) := by
  have hcarries := h.carries
  refine ⟨fun channel => (hcarries.honours channel).taken, fun channel hopen => ⟨?_, ?_, ?_⟩,
    hcarries.written, fun call code hfault => ?_, fun dealing hfits path hne => ?_⟩
  · obtain ⟨pipe, hget, -, -, hsent⟩ := (hcarries.honours channel).flows hopen
    rw [hsent, waiting, hget]
    rfl
  · exact fun hfault room limit => hcarries.read_ending hopen hfault room limit
  · intro hfault data hroom
    rw [(write_of_none hfault channel data).1, hroom]
    rfl
  · exact ⟨(Call.fails_of_fault hfault).1, Dealing.passage?_of_fault hfault, Call.unharmed hfault⟩
  · refine (dealing.effect hfits.room).apart hcarries.fresh hne fun used hpassage pipe hpipe => ?_
    have hopen := hfits.isOpen used (Dealing.channel?_of_passage hpassage)
    obtain ⟨_, hget, hpath, -⟩ := (hcarries.honours used).flows hopen
    rw [hget] at hpipe
    cases hpipe
    exact hpath

theorem findsRoom_inject {path : String} {data : Bytes}
    (h : ∀ pipe ∈ memory.pipes.values, pipe.path = path → (pipe.inbox.send data).2 = []) :
    (Dealing.inject path data).FindsRoom memory :=
  fun _ pipe hpipe => h pipe (Table.mem_values_of_get? hpipe)

/-- The first of two channels to a serial port. -/
def firstToPort : Channel := ⟨0, "/dev/ttyACM1", 3⟩

def secondToPort : Channel := ⟨1, "/dev/ttyACM1", 5⟩

/-- A channel to another device. -/
def toKeyboard : Channel := ⟨2, "/dev/hidraw8", 7⟩

/-- Three channels are opened and used. One write fails by a fault. -/
def exchange : List Dealing :=
  [.plug (Sample.serial 1), .plug (Sample.hid 2 0), .call (.open_ (Sample.serial 1)),
    .call (.open_ (Sample.serial 1)), .call (.open_ (Sample.hid 2 0)),
    .call (.write firstToPort [1, 2, 3]), .inject "/dev/ttyACM1" [9], .call (.read firstToPort 2 0),
    .close secondToPort, .inject "/dev/ttyACM1" [8], .failNext ⟨.write, .io⟩,
    .call (.write firstToPort [4]), .call (.write toKeyboard [0])]

def exchanged : List Passage :=
  [.opened firstToPort, .opened secondToPort, .opened toKeyboard, .wrote firstToPort [1, 2, 3],
    .injected "/dev/ttyACM1" [9], .received firstToPort [1, 2], .closed secondToPort,
    .injected "/dev/ttyACM1" [8], .wrote toKeyboard [0]]

theorem run_exchange : Run (Dealing.afterAll exchange {}) exchanged := by
  have hport := Run.start.step (.plug (Sample.serial 1)) ⟨nofun, trivial⟩
  have hkeyboard := hport.step (.plug (Sample.hid 2 0)) ⟨nofun, trivial⟩
  have hfirst := hkeyboard.step (.call (.open_ (Sample.serial 1))) ⟨nofun, trivial⟩
  have hsecond := hfirst.step (.call (.open_ (Sample.serial 1))) ⟨nofun, trivial⟩
  have hthird := hsecond.step (.call (.open_ (Sample.hid 2 0))) ⟨nofun, trivial⟩
  have hwrote := hthird.step (.call (.write firstToPort [1, 2, 3]))
    ⟨by rintro _ ⟨⟩; decide +kernel, fun _ => by decide +kernel⟩
  have hinjected := hwrote.step (.inject "/dev/ttyACM1" [9])
    ⟨nofun, findsRoom_inject (by decide +kernel)⟩
  have hread := hinjected.step (.call (.read firstToPort 2 0))
    ⟨by rintro _ ⟨⟩; decide +kernel, trivial⟩
  have hclosed := hread.step (.close secondToPort) ⟨by rintro _ ⟨⟩; decide +kernel, trivial⟩
  have hmore := hclosed.step (.inject "/dev/ttyACM1" [8])
    ⟨nofun, findsRoom_inject (by decide +kernel)⟩
  have hfault := hmore.step (.failNext ⟨.write, .io⟩) ⟨nofun, trivial⟩
  have hfailed := hfault.step (.call (.write firstToPort [4]))
    ⟨by rintro _ ⟨⟩; decide +kernel, fun hnone => absurd hnone (by decide +kernel)⟩
  have hother := hfailed.step (.call (.write toKeyboard [0]))
    ⟨by rintro _ ⟨⟩; decide +kernel, fun _ => by decide +kernel⟩
  refine Eq.mp (congrArg (Run _) ?_) hother
  decide +kernel

/-- What was not read on the first channel waits there and can be read, and what was written to the
other device is not among it. -/
theorem Run.streams_exact_exchange :
    Run (Dealing.afterAll exchange {}) exchanged ∧
      (Dealing.afterAll exchange {}).waiting firstToPort = [3, 9, 8] ∧
      ((read firstToPort 2 0).run (Dealing.afterAll exchange {})).ending = .returned [3, 9] ∧
      ((Dealing.afterAll exchange {}).device "/dev/ttyACM1").written = [1, 2, 3] ∧
      (Dealing.afterAll exchange {}).waiting toKeyboard = [0] := by
  obtain ⟨-, hopen, hwritten, -⟩ := run_exchange.streams_exact
  obtain ⟨hfirst, hread, -⟩ := hopen firstToPort (by decide +kernel)
  obtain ⟨hthird, -⟩ := hopen toKeyboard (by decide +kernel)
  have hwaiting : (Dealing.afterAll exchange {}).waiting firstToPort = [3, 9, 8] :=
    (@List.append_cancel_left _ [1, 2] _ _ hfirst).symm
  refine ⟨run_exchange, hwaiting, ?_, (hwritten _).trans (by decide +kernel), hthird.symm⟩
  rw [hread (by decide +kernel) 2 0, hwaiting]
  rfl

end Memory

end Hotplug
