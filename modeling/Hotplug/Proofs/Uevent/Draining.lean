import Hotplug.Proofs.Sysfs.Identity
import Hotplug.Proofs.Uevent.Decoding
/-!
# Only notices count

A drain receives until there is nothing more to receive or a reception fails. Its notices are those of
the datagrams that arrived until then, in their order; its failure is that of the last reception.
Interruptions, datagrams from senders that are not trusted, datagrams that cannot be decoded, and events
that are of no interest may come in any number at any place: the notices and the failure stay the same,
in this drain and in all later ones.

## Main definitions

* `Hotplug.UeventSocket.Announces`, `Hotplug.UeventSocket.Carries`: the notice of an event, and of a
  datagram.
* `Hotplug.UeventSocket.arrivals`, `Hotplug.UeventSocket.lastErrno`, `Hotplug.UeventSocket.leftovers`: the
  receptions of a drain.
* `Hotplug.UeventSocket.Junk`, `Hotplug.UeventSocket.Littered`: receptions without meaning, and where they
  have come in.

## Main statements

* `Hotplug.UeventSocket.ends_digest`: what one datagram gives.
* `Hotplug.UeventSocket.ends_drain`: what a drain returns and leaves.
* `Hotplug.UeventSocket.Littered.drained`: what junk does to one drain.
* `Hotplug.UeventSocket.drain_undisturbed`
-/

namespace Hotplug

/-- The kernel, with the answers to the coming receptions. -/
def Kernel.awaiting (kernel : Kernel) (receptions : List (Except Errno Datagram)) : Kernel :=
  { kernel with script := { kernel.script with receptions } }

namespace UeventSocket

variable {socket : UeventSocket} {kernel : Kernel} {tree : FileTree}

/-! ### One datagram -/

/-- Which notice an event gives with the tree as it stands. -/
inductive Announces (socket : UeventSocket) (tree : FileTree) : Uevent → Notice → Prop
  /-- A device of interest appeared, and the tree tells what it is. -/
  | added {devpath subsystem : String} {devname : Option String} {family : Family} {info : Info}
    (hfamily : Family.ofSubsystem? subsystem = some family)
    (hadmits : socket.filter.admits family = true)
    (hdevice : ((socket.sysfs.deviceAt devpath family).run tree).ending = .returned (some info))
    (hpasses : socket.filter.passes info = true) :
    Announces socket tree ⟨.add, devpath, subsystem, devname⟩ (.added info)
  /-- A device of a family of interest vanished. -/
  | removed {devpath subsystem : String} {devname : Option String} {family : Family}
    (hfamily : Family.ofSubsystem? subsystem = some family)
    (hadmits : socket.filter.admits family = true) :
    Announces socket tree ⟨.remove, devpath, subsystem, devname⟩ (.removed devpath)

/-- The notice that an event gives. -/
def noticeOf? (socket : UeventSocket) (tree : FileTree) (event : Uevent) : Option Notice :=
  match (Family.ofSubsystem? event.subsystem).filter socket.filter.admits, event.action with
  | some family, .add =>
    let path := Path.join socket.sysfs.root (Path.relative event.devpath)
    ((socket.sysfs.inspect tree path family).toOption.filter socket.filter.passes).map .added
  | some _, .remove => some (.removed event.devpath)
  | _, _ => none

theorem ends_deviceAt (devpath : String) (family : Family) :
    ((socket.sysfs.deviceAt devpath family).on Kernel.tree fun tree kernel => { kernel with tree }).Ends
      kernel (.returned (socket.sysfs.inspect kernel.tree
        (Path.join socket.sysfs.root (Path.relative devpath)) family).toOption) kernel := by
  have hread : (socket.sysfs.deviceAt devpath family).Ends kernel.tree (.returned
      (socket.sysfs.inspect kernel.tree (Path.join socket.sysfs.root (Path.relative devpath))
        family).toOption) kernel.tree := Sysfs.ends_read
  rw [Action.Ends, Action.run_on, hread.1, hread.2]
  exact ⟨rfl, rfl⟩

theorem ends_translate (event : Uevent) : (socket.translate event).Ends kernel
    (.returned (socket.noticeOf? kernel.tree event)) kernel := by
  rw [translate, noticeOf?]
  cases Family.ofSubsystem? event.subsystem with
  | none => exact ⟨rfl, rfl⟩
  | some family =>
    by_cases hadmits : socket.filter.admits family = true
    · simp only [hadmits, Option.filter_some, Bool.not_true, Bool.false_eq_true, if_false, if_true]
      cases event.action with
      | add => exact (ends_deviceAt event.devpath family).bind ⟨rfl, rfl⟩
      | remove => exact ⟨rfl, rfl⟩
      | other name => exact ⟨rfl, rfl⟩
    · simp only [hadmits, Option.filter_some, Bool.not_false, Bool.false_eq_true, if_false, if_true]
      exact ⟨rfl, rfl⟩

theorem noticeOf?_eq_some_iff {event : Uevent} {notice : Notice} :
    socket.noticeOf? tree event = some notice ↔ socket.Announces tree event notice := by
  constructor
  · intro h
    obtain ⟨action, devpath, subsystem, devname⟩ := event
    rw [noticeOf?] at h
    cases hfamily : (Family.ofSubsystem? subsystem).filter socket.filter.admits with
    | none =>
      rw [hfamily] at h
      cases action <;> cases h
    | some family =>
      rw [hfamily] at h
      obtain ⟨hfamily, hadmits⟩ := Option.filter_eq_some_iff.1 hfamily
      cases action with
      | add =>
        obtain ⟨info, hinfo, rfl⟩ := Option.map_eq_some_iff.1 h
        obtain ⟨hinfo, hpasses⟩ := Option.filter_eq_some_iff.1 hinfo
        exact .added hfamily hadmits (by rw [Sysfs.deviceAt, Sysfs.ends_read.1, hinfo]) hpasses
      | remove =>
        cases h
        exact .removed hfamily hadmits
      | other name => cases h
  · rintro (⟨hfamily, hadmits, hdevice, hpasses⟩ | ⟨hfamily, hadmits⟩)
    · rw [Sysfs.deviceAt, Sysfs.ends_read.1] at hdevice
      have hinfo := Ending.returned.inj hdevice
      simp [noticeOf?, hfamily, hadmits, hinfo, hpasses, Option.filter_some]
    · simp [noticeOf?, hfamily, hadmits, Option.filter_some]

/-- Which notice a datagram carries: its sender belongs to a group, and is the kernel itself if it is in
the kernel's, and what is received of it is decoded to an event that gives the notice. -/
inductive Carries (socket : UeventSocket) (tree : FileTree) : Datagram → Notice → Prop
  | mk {message : Bytes} {port groups : UInt32} {event : Uevent} {notice : Notice} (hgroups : groups ≠ 0)
    (hkernel : groups = 1 → port = 0) (hevent : Uevent.decode (message.take messageRoom) = .ok event)
    (hnotice : socket.Announces tree event notice) :
    Carries socket tree ⟨message, some (port, groups)⟩ notice

/-- The notice that a datagram carries. -/
def noticeIn? (socket : UeventSocket) (tree : FileTree) (datagram : Datagram) : Option Notice :=
  if accepts datagram.sender then
    (Uevent.decode (datagram.message.take messageRoom)).toOption.bind (socket.noticeOf? tree)
  else none

theorem accepts_iff {sender : Option (UInt32 × UInt32)} : accepts sender = true ↔
    ∃ port groups, sender = some (port, groups) ∧ groups ≠ 0 ∧ (groups = 1 → port = 0) := by
  rcases sender with _ | ⟨port, groups⟩
  · simp [accepts]
  · have hgroup : groups.toNat = EventSource.kernelGroup ↔ groups = 1 := UInt32.toNat_inj (b := 1)
    simp only [accepts, hgroup]
    by_cases hnone : groups = 0
    · simp [hnone]
    · by_cases hkernel : groups = 1
      · simp [hkernel]
      · simp [hnone, hkernel]

theorem noticeIn?_eq_some_iff {datagram : Datagram} {notice : Notice} :
    socket.noticeIn? tree datagram = some notice ↔ socket.Carries tree datagram notice := by
  obtain ⟨message, sender⟩ := datagram
  rw [noticeIn?]
  constructor
  · intro h
    split at h
    · next haccepts =>
      obtain ⟨event, hevent, hnotice⟩ := Option.bind_eq_some_iff.1 h
      obtain ⟨port, groups, rfl, hgroups, hkernel⟩ := accepts_iff.1 haccepts
      exact .mk hgroups hkernel (Sysfs.eq_ok_of_toOption hevent) (noticeOf?_eq_some_iff.1 hnotice)
    · cases h
  · rintro ⟨hgroups, hkernel, hevent, hnotice⟩
    rw [if_pos (accepts_iff.2 ⟨_, _, rfl, hgroups, hkernel⟩)]
    rw [hevent]
    exact noticeOf?_eq_some_iff.2 hnotice

theorem ends_digest (datagram : Datagram) :
    (socket.digest { datagram with message := datagram.message.take messageRoom }).Ends kernel
      (.returned (socket.noticeIn? kernel.tree datagram)) kernel := by
  rw [digest, noticeIn?]
  by_cases haccepts : accepts datagram.sender = true
  · rw [if_neg (by simpa using haccepts), if_pos haccepts]
    dsimp only
    cases Uevent.decode (datagram.message.take messageRoom) with
    | error reason => exact ⟨rfl, rfl⟩
    | ok event => exact ends_translate event
  · rw [if_pos (by simpa using haccepts), if_neg haccepts]
    exact ⟨rfl, rfl⟩

/-! ### One drain -/

/-- Whether a reception is the last one of a drain: it fails, and was not just interrupted. -/
def isLast : Except Errno Datagram → Bool
  | .ok _ => false
  | .error errno => errno ≠ .interrupted

/-- The datagrams that arrive before the last reception. -/
def arrivals (receptions : List (Except Errno Datagram)) : List Datagram :=
  (receptions.takeWhile (!isLast ·)).filterMap (·.toOption)

/-- With what the last reception fails. When the answers are used up, there is nothing to receive. -/
def lastErrno (receptions : List (Except Errno Datagram)) : Errno :=
  match receptions.find? isLast with
  | some (.error errno) => errno
  | _ => .again

/-- The answers behind the last reception. -/
def leftovers (receptions : List (Except Errno Datagram)) : List (Except Errno Datagram) :=
  (receptions.dropWhile (!isLast ·)).drop 1

section Receptions

variable {answer : Except Errno Datagram} {receptions : List (Except Errno Datagram)}

theorem arrivals_of_isLast (h : isLast answer = true) : arrivals (answer :: receptions) = [] := by
  rw [arrivals, List.takeWhile_cons_of_neg (by simp [h]), List.filterMap_nil]

theorem arrivals_of_not_isLast (h : isLast answer = false) :
    arrivals (answer :: receptions) = answer.toOption.toList ++ arrivals receptions := by
  rw [arrivals, List.takeWhile_cons_of_pos (by simp [h]), List.filterMap_cons, arrivals]
  cases answer <;> rfl

theorem lastErrno_of_isLast {errno : Errno} (h : isLast (.error errno) = true) :
    lastErrno (.error errno :: receptions) = errno := by
  rw [lastErrno, List.find?_cons_of_pos h]

theorem lastErrno_of_not_isLast (h : isLast answer = false) :
    lastErrno (answer :: receptions) = lastErrno receptions := by
  rw [lastErrno, List.find?_cons_of_neg (by simp [h]), lastErrno]

theorem leftovers_of_isLast (h : isLast answer = true) : leftovers (answer :: receptions) = receptions := by
  rw [leftovers, List.dropWhile_cons_of_neg (by simp [h]), List.drop_succ_cons, List.drop_zero]

theorem leftovers_of_not_isLast (h : isLast answer = false) :
    leftovers (answer :: receptions) = leftovers receptions := by
  rw [leftovers, List.dropWhile_cons_of_pos (by simp [h]), leftovers]

end Receptions

theorem ends_receive (answer : Except Errno Datagram) (receptions : List (Except Errno Datagram)) :
    (Kernel.receive messageRoom).Ends (kernel.awaiting (answer :: receptions))
      (.returned (answer.map fun datagram =>
        { datagram with message := datagram.message.take messageRoom })) (kernel.awaiting receptions) :=
  ⟨rfl, rfl⟩

theorem ends_receive_nil : (Kernel.receive messageRoom).Ends (kernel.awaiting [])
    (.returned (.error .again)) (kernel.awaiting []) :=
  ⟨rfl, rfl⟩

/-- What the drain returns when these receptions are to come. -/
def drained (socket : UeventSocket) (tree : FileTree) (receptions : List (Except Errno Datagram)) :
    List Notice × Option Failure :=
  ((arrivals receptions).filterMap (socket.noticeIn? tree), receptionFailure? (lastErrno receptions))

theorem drained_of_not_isLast {answer : Except Errno Datagram} {receptions : List (Except Errno Datagram)}
    (h : isLast answer = false) : socket.drained tree (answer :: receptions) =
      ((answer.toOption.bind (socket.noticeIn? tree)).toList ++ (socket.drained tree receptions).1,
        (socket.drained tree receptions).2) := by
  simp only [drained, arrivals_of_not_isLast h, lastErrno_of_not_isLast h, List.filterMap_append]
  cases answer.toOption with
  | none => rfl
  | some datagram =>
    rw [Option.toList_some, Option.bind_some, List.filterMap_cons]
    cases socket.noticeIn? tree datagram <;> rfl

theorem drained_of_isLast {errno : Errno} (h : isLast (.error errno) = true)
    (receptions : List (Except Errno Datagram)) :
    socket.drained tree (.error errno :: receptions) = ([], receptionFailure? errno) := by
  rw [drained, arrivals_of_isLast h, lastErrno_of_isLast h, List.filterMap_nil]

theorem ends_receiveAll {more : Nat} {receptions : List (Except Errno Datagram)}
    (hmore : receptions.length < more) : (socket.receiveAll more).Ends (kernel.awaiting receptions)
      (.returned (socket.drained kernel.tree receptions)) (kernel.awaiting (leftovers receptions)) := by
  -- Each turn takes one answer, so that `more` stays ahead of those to come.
  induction receptions generalizing more with
  | nil =>
    obtain ⟨more, rfl⟩ : ∃ less, more = less + 1 := ⟨more - 1, by simp at hmore; omega⟩
    exact ends_receive_nil.bind ⟨rfl, rfl⟩
  | cons answer rest ih =>
    obtain ⟨more, rfl⟩ : ∃ less, more = less + 1 := ⟨more - 1, by simp at hmore; omega⟩
    have hrest : rest.length < more := by simpa using hmore
    refine (ends_receive answer rest).bind ?_
    cases answer with
    | ok datagram =>
      refine (ends_digest datagram).bind ((ih hrest).bind ?_)
      have hanswer : isLast (.ok datagram) = false := rfl
      rw [drained_of_not_isLast hanswer, leftovers_of_not_isLast hanswer]
      exact ⟨rfl, rfl⟩
    | error errno =>
      by_cases hinterrupted : errno = .interrupted
      · subst hinterrupted
        have hanswer : isLast (.error .interrupted) = false := rfl
        rw [drained_of_not_isLast hanswer, leftovers_of_not_isLast hanswer]
        exact ih hrest
      · have hlast : isLast (.error errno) = true := by simpa [isLast] using hinterrupted
        rw [drained_of_isLast hlast, leftovers_of_isLast hlast]
        dsimp only [Except.map]
        rw [if_neg hinterrupted]
        cases receptionFailure? errno with
        | none => exact ⟨rfl, rfl⟩
        | some failure => exact ⟨rfl, rfl⟩

/-- What a drain returns and leaves. It always returns. -/
theorem ends_drain (socket : UeventSocket) (kernel : Kernel) : socket.drain.Ends kernel
    (.returned (socket.drained kernel.tree kernel.script.receptions))
    (kernel.awaiting (leftovers kernel.script.receptions)) :=
  @ends_receiveAll socket kernel _ _ (Nat.lt_succ_self kernel.script.receptions.length)

/-! ### Junk -/

/-- Receptions without meaning. -/
inductive Junk (socket : UeventSocket) : Except Errno Datagram → Prop
  /-- The reception was interrupted. -/
  | interruption : Junk socket (.error .interrupted)
  /-- The sender has no address. -/
  | nameless {message : Bytes} : Junk socket (.ok ⟨message, none⟩)
  /-- The datagram was sent to no group. -/
  | unicast {message : Bytes} {port : UInt32} : Junk socket (.ok ⟨message, some (port, 0)⟩)
  /-- The datagram was sent to the kernel's group, and not by the kernel. -/
  | forged {message : Bytes} {port : UInt32} (hport : port ≠ 0) :
    Junk socket (.ok ⟨message, some (port, 1)⟩)
  /-- What is received of the datagram cannot be decoded. -/
  | malformed {message : Bytes} {sender : Option (UInt32 × UInt32)} {reason : Malformed}
    (hdecode : Uevent.decode (message.take messageRoom) = .error reason) :
    Junk socket (.ok ⟨message, sender⟩)
  /-- The event is one of another subsystem. -/
  | foreign {message : Bytes} {sender : Option (UInt32 × UInt32)} {event : Uevent}
    (hdecode : Uevent.decode (message.take messageRoom) = .ok event)
    (hhid : event.subsystem ≠ "hidraw") (hserial : event.subsystem ≠ "tty") :
    Junk socket (.ok ⟨message, sender⟩)
  /-- The event is one of a family of no interest. -/
  | unwanted {message : Bytes} {sender : Option (UInt32 × UInt32)} {event : Uevent} {family : Family}
    (hdecode : Uevent.decode (message.take messageRoom) = .ok event)
    (hfamily : event.subsystem = family.subsystem) (hadmits : socket.filter.admits family = false) :
    Junk socket (.ok ⟨message, sender⟩)
  /-- The device neither appeared nor vanished. -/
  | otherAction {message : Bytes} {sender : Option (UInt32 × UInt32)} {event : Uevent} {name : String}
    (hdecode : Uevent.decode (message.take messageRoom) = .ok event)
    (haction : event.action = .other name) : Junk socket (.ok ⟨message, sender⟩)

theorem Junk.isLast {answer : Except Errno Datagram} (h : socket.Junk answer) :
    UeventSocket.isLast answer = false := by
  cases h <;> rfl

theorem noticeIn?_of_not_accepts {datagram : Datagram} (h : ¬accepts datagram.sender = true) :
    socket.noticeIn? tree datagram = none := by
  rw [noticeIn?, if_neg h]

theorem noticeIn?_of_decode {datagram : Datagram} {result : Except Malformed Uevent}
    (h : Uevent.decode (datagram.message.take messageRoom) = result)
    (hnone : result.toOption.bind (socket.noticeOf? tree) = none) :
    socket.noticeIn? tree datagram = none := by
  rw [noticeIn?, h, hnone, ite_self]

theorem Junk.noticeIn? {answer : Except Errno Datagram} (h : socket.Junk answer) (tree : FileTree) :
    answer.toOption.bind (socket.noticeIn? tree) = none := by
  cases h with
  | interruption => rfl
  | nameless => exact noticeIn?_of_not_accepts (by simp [accepts])
  | unicast => exact noticeIn?_of_not_accepts (by simp [accepts])
  | forged hport => exact noticeIn?_of_not_accepts (by simp [accepts, EventSource.kernelGroup, hport])
  | malformed hdecode => exact noticeIn?_of_decode hdecode rfl
  | foreign hdecode hhid hserial =>
    refine noticeIn?_of_decode hdecode ?_
    simp [Except.toOption, noticeOf?, Family.ofSubsystem?, hhid, hserial]
  | unwanted hdecode hfamily hadmits =>
    refine noticeIn?_of_decode hdecode ?_
    simp [Except.toOption, noticeOf?, hfamily, Family.ofSubsystem?_subsystem, hadmits,
      Option.filter_some]
  | otherAction hdecode haction =>
    refine noticeIn?_of_decode hdecode ?_
    simp [Except.toOption, noticeOf?, haction]

/-- The second receptions are the first ones with junk between them, in any number at any place. -/
inductive Littered (socket : UeventSocket) :
    List (Except Errno Datagram) → List (Except Errno Datagram) → Prop
  | nil : Littered socket [] []
  | keep {answer : Except Errno Datagram} {clean dirty : List (Except Errno Datagram)}
    (hrest : Littered socket clean dirty) : Littered socket (answer :: clean) (answer :: dirty)
  | junk {answer : Except Errno Datagram} {clean dirty : List (Except Errno Datagram)}
    (hjunk : socket.Junk answer) (hrest : Littered socket clean dirty) :
    Littered socket clean (answer :: dirty)

namespace Littered

variable {clean dirty : List (Except Errno Datagram)}

protected theorem refl (socket : UeventSocket) :
    (receptions : List (Except Errno Datagram)) → socket.Littered receptions receptions
  | [] => .nil
  | _ :: rest => .keep (Littered.refl socket rest)

/-- Junk can be put in anywhere. -/
theorem insert {junk : List (Except Errno Datagram)} (hjunk : ∀ answer ∈ junk, socket.Junk answer)
    (before after : List (Except Errno Datagram)) :
    socket.Littered (before ++ after) (before ++ junk ++ after) := by
  induction before with
  | nil =>
    induction junk with
    | nil => exact .refl socket after
    | cons answer junk ih =>
      obtain ⟨hanswer, hjunk⟩ := List.forall_mem_cons.1 hjunk
      exact .junk hanswer (ih hjunk)
  | cons answer before ih => exact .keep ih

theorem drained (h : socket.Littered clean dirty) (tree : FileTree) :
    socket.drained tree dirty = socket.drained tree clean := by
  induction h with
  | nil => rfl
  | @keep answer clean dirty _ ih =>
    cases hlast : isLast answer with
    | false => rw [drained_of_not_isLast hlast, drained_of_not_isLast hlast, ih]
    | true =>
      -- Nothing behind the last reception counts, so the rest need not be the same.
      cases answer with
      | ok datagram => cases hlast
      | error errno => rw [drained_of_isLast hlast, drained_of_isLast hlast]
  | junk hjunk _ ih =>
    rw [drained_of_not_isLast hjunk.isLast, hjunk.noticeIn?, ih, Option.toList_none, List.nil_append]

/-- What is left of the receptions after a drain is littered in turn. -/
theorem leftovers (h : socket.Littered clean dirty) :
    socket.Littered (leftovers clean) (leftovers dirty) := by
  induction h with
  | nil => exact .nil
  | @keep answer clean dirty hrest ih =>
    cases hlast : isLast answer with
    | false => rwa [leftovers_of_not_isLast hlast, leftovers_of_not_isLast hlast]
    | true => rwa [leftovers_of_isLast hlast, leftovers_of_isLast hlast]
  | junk hjunk _ ih => rwa [leftovers_of_not_isLast hjunk.isLast]

end Littered

/-! ### Many drains -/

/-- Drains one after the other, each with the tree as it is by then. -/
def drainInTurn (socket : UeventSocket) (trees : List FileTree) :
    Action Kernel (List (List Notice × Option Failure)) :=
  trees.mapM fun tree => do
    Action.modify ({ · with tree })
    socket.drain

/-- What the drains return. -/
def drainedInTurn (socket : UeventSocket) :
    List FileTree → List (Except Errno Datagram) → List (List Notice × Option Failure)
  | [], _ => []
  | tree :: trees, receptions =>
    socket.drained tree receptions :: socket.drainedInTurn trees (leftovers receptions)

theorem ending_drainInTurn (trees : List FileTree) (kernel : Kernel)
    (receptions : List (Except Errno Datagram)) :
    ((socket.drainInTurn trees).run (kernel.awaiting receptions)).ending =
      .returned (socket.drainedInTurn trees receptions) := by
  suffices h : ∃ left, (socket.drainInTurn trees).Ends (kernel.awaiting receptions)
      (.returned (socket.drainedInTurn trees receptions)) left from h.choose_spec.1
  induction trees generalizing kernel receptions with
  | nil => exact ⟨_, rfl, rfl⟩
  | cons tree trees ih =>
    obtain ⟨left, hrest⟩ := ih { kernel with tree } (UeventSocket.leftovers receptions)
    have hfirst := socket.ends_drain (({ kernel with tree } : Kernel).awaiting receptions)
    refine ⟨left, ?_⟩
    rw [drainInTurn, List.mapM_cons]
    exact .bind (.bind ⟨rfl, rfl⟩ hfirst) (.bind hrest ⟨rfl, rfl⟩)

theorem Littered.drainedInTurn {clean dirty : List (Except Errno Datagram)}
    (h : socket.Littered clean dirty) (trees : List FileTree) :
    socket.drainedInTurn trees dirty = socket.drainedInTurn trees clean := by
  induction trees generalizing clean dirty with
  | nil => rfl
  | cons tree trees ih =>
    rw [UeventSocket.drainedInTurn, UeventSocket.drainedInTurn, h.drained tree, ih h.leftovers]

theorem receptionFailure?_eq_none_iff {errno : Errno} :
    receptionFailure? errno = none ↔ errno = .again := by
  rw [receptionFailure?]
  split
  · next hagain => exact iff_of_true rfl hagain
  · next hagain =>
    refine iff_of_false ?_ hagain
    split
    · exact nofun
    · split <;> exact nofun

/-- A drain returns the notices of the datagrams that arrive before the last reception, in their order,
and the failure of that reception, if it is one; the answers behind it are left for later. A datagram has
a notice if its sender may announce events, what is received of it is decoded, and the event has one.
Junk changes nothing of this, in one drain and in any number of them. -/
theorem drain_undisturbed (socket : UeventSocket) (kernel : Kernel) :
    (∀ receptions, socket.drain.Ends (kernel.awaiting receptions)
      (.returned ((arrivals receptions).filterMap (socket.noticeIn? kernel.tree),
        receptionFailure? (lastErrno receptions)))
      (kernel.awaiting (leftovers receptions))) ∧
    (∀ errno, receptionFailure? errno = none ↔ errno = .again) ∧
    (∀ datagram notice, socket.noticeIn? kernel.tree datagram = some notice ↔
      socket.Carries kernel.tree datagram notice) ∧
    ∀ clean dirty, socket.Littered clean dirty →
      (socket.drain.run (kernel.awaiting dirty)).ending =
        (socket.drain.run (kernel.awaiting clean)).ending ∧
      ∀ trees, ((socket.drainInTurn trees).run (kernel.awaiting dirty)).ending =
        ((socket.drainInTurn trees).run (kernel.awaiting clean)).ending := by
  have hdrain : ∀ receptions, socket.drain.Ends (kernel.awaiting receptions)
      (.returned (socket.drained kernel.tree receptions)) (kernel.awaiting (leftovers receptions)) :=
    fun receptions => socket.ends_drain (kernel.awaiting receptions)
  refine ⟨hdrain, fun _ => receptionFailure?_eq_none_iff, fun _ _ => noticeIn?_eq_some_iff, ?_⟩
  intro clean dirty hlittered
  refine ⟨?_, fun trees => ?_⟩
  · rw [(hdrain dirty).1, (hdrain clean).1, hlittered.drained]
  · rw [ending_drainInTurn, ending_drainInTurn, hlittered.drainedInTurn]

/-- What the kernel sends when a port is gone. -/
def goneMessage : Bytes :=
  Uevent.plain (Text.utf8 "remove@/devices/old") (Uevent.block Uevent.scattered)

theorem decode_goneMessage :
    Uevent.decode (goneMessage.take messageRoom) = .ok ⟨.remove, "/devices/a=b=c", "tty", none⟩ := by
  have hlength : goneMessage.length ≤ messageRoom := by
    simp only [goneMessage, Uevent.plain, Uevent.block, Uevent.scattered, Uevent.assignment,
      Text.utf8_eq]
    decide
  have hheader : 0 ∉ Text.utf8 "remove@/devices/old" ∧
      '@'.toUInt8 ∈ Text.utf8 "remove@/devices/old" := by
    rw [Text.utf8_eq]
    decide
  rw [List.take_of_length_le hlength, goneMessage, Uevent.decode,
    Uevent.properties_plain hheader.1 hheader.2]
  exact Uevent.ofEntries_of_describes Uevent.describes_scattered

/-- An interruption, the message from senders that may not announce anything, and an empty one. -/
def litter : List (Except Errno Datagram) :=
  [.ok ⟨goneMessage, none⟩, .error .interrupted, .ok ⟨goneMessage, some (7, 0)⟩,
    .ok ⟨goneMessage, some (7, 1)⟩, .ok ⟨[], some (7, 2)⟩]

theorem junk_litter : ∀ answer ∈ litter, Sysfs.portSocket.Junk answer := by
  have hempty : Uevent.decode (([] : Bytes).take messageRoom) = .error .malformedHeader := by
    rw [List.take_nil, Uevent.decode, Uevent.properties, Uevent.isTagged, Uevent.mark_eq, Text.utf8_eq]
    decide
  simp only [litter, List.forall_mem_cons]
  exact ⟨.nameless, .interruption, .unicast, .forged (by decide), .malformed hempty, List.forall_mem_nil _⟩

/-- The notice that a port is gone, followed by junk and a failure. -/
theorem drain_undisturbed_litter :
    let gone : Except Errno Datagram := .ok ⟨goneMessage, some (0, 1)⟩
    let receptions := [gone] ++ litter ++ [.error .noBuffers]
    Sysfs.portSocket.Littered ([gone] ++ [.error .noBuffers]) receptions ∧
      (Sysfs.portSocket.drain.run (({} : Kernel).awaiting receptions)).ending =
        .returned ([.removed "/devices/a=b=c"], some overrun) := by
  intro gone receptions
  obtain ⟨hdrain, -, hnotice, hjunk⟩ := drain_undisturbed Sysfs.portSocket {}
  have hlittered := Littered.insert junk_litter [gone] [.error .noBuffers]
  have hserial : Family.ofSubsystem? "tty" = some .serial := by decide
  have hgone : Sysfs.portSocket.noticeIn? {} ⟨goneMessage, some (0, 1)⟩ =
      some (.removed "/devices/a=b=c") :=
    (hnotice _ _).2 (.mk (by decide) (fun _ => rfl) decode_goneMessage (.removed hserial rfl))
  refine ⟨hlittered, ((hjunk _ _ hlittered).1.trans (hdrain _).1).trans ?_⟩
  change Ending.returned ([_].filterMap _, some overrun) = _
  rw [List.filterMap_cons_some hgone, List.filterMap_nil]

end UeventSocket

end Hotplug
