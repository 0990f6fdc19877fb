import Mathlib.Data.List.DropRight
import Hotplug.Proofs.Backend.Failing
/-!
# Announcements and deliveries

What happens to the mailboxes of all subscribers goes down in one ledger. From it follows what was
issued to one of them since he subscribed, and what was handed to him. The difference is what his
mailbox holds, with one signal for each announcement.

## Main definitions

* `Hotplug.Event`: a subscription, an announcement or a delivery.
* `Hotplug.Event.issuedTo`, `Hotplug.Event.handedTo`, `Hotplug.Event.owedTo`: the account of one
  subscriber.
* `Hotplug.Memory.handsOver`: what a delivery hands over.
* `Hotplug.Memory.Agrees`: a mailbox agrees with the account of its subscriber.

## Main statements

* `Hotplug.Memory.agrees_subscribed`, `Hotplug.Memory.Agrees.publishes`, `Hotplug.Memory.Agrees.drained`:
  what happens to a mailbox.
* `Hotplug.Memory.Agrees.besides`: what happens to others.
-/

namespace Hotplug

/-- What happens to mailboxes. -/
inductive Event
  /-- A change is announced to every subscriber. -/
  | announced (notice : Notice)
  /-- The mailbox of a name is opened. -/
  | subscribed (name : Nat)
  /-- The mailbox of a name is emptied, and what was in it is handed over. -/
  | delivered (name : Nat) (notices : List Notice)
  deriving DecidableEq, Repr

namespace Event

/-- The announcement, if the event is one. -/
def notice? : Event → Option Notice
  | announced notice => some notice
  | _ => none

/-- What the event hands over from the mailbox of a name. -/
def handed (name : Nat) : Event → List Notice
  | delivered other notices => if other = name then notices else []
  | _ => []

/-- The event is about the mailbox of another name. -/
def Besides (name : Nat) : Event → Prop
  | announced _ => False
  | subscribed other => other ≠ name
  | delivered other _ => other ≠ name

/-- What happened since the mailbox of a name was opened. -/
def since (name : Nat) (events : List Event) : List Event :=
  events.rtakeWhile (· ≠ subscribed name)

/-- What was announced since the mailbox of a name was opened, oldest first. -/
def issuedTo (name : Nat) (events : List Event) : List Notice :=
  (since name events).filterMap notice?

/-- What was handed over from the mailbox of a name, oldest first. -/
def handedTo (name : Nat) (events : List Event) : List Notice :=
  (since name events).flatMap (handed name)

/-- What was announced since the mailbox of a name was opened, and was not handed over. -/
def owedTo (name : Nat) (events : List Event) : List Notice :=
  (issuedTo name events).drop (handedTo name events).length

variable {name : Nat} {event : Event}

theorem since_subscribed (name : Nat) (events : List Event) :
    since name (events ++ [subscribed name]) = [] :=
  List.rtakeWhile_concat_neg _ _ _ (by simp)

theorem since_concat (h : event ≠ subscribed name) (events : List Event) :
    since name (events ++ [event]) = since name events ++ [event] :=
  List.rtakeWhile_concat_pos _ _ _ (by simpa using h)

theorem issuedTo_concat (h : event ≠ subscribed name) (events : List Event) :
    issuedTo name (events ++ [event]) = issuedTo name events ++ event.notice?.toList := by
  rw [issuedTo, since_concat h, List.filterMap_append, issuedTo]
  cases hnotice : event.notice? <;> simp [hnotice]

theorem handedTo_concat (h : event ≠ subscribed name) (events : List Event) :
    handedTo name (events ++ [event]) = handedTo name events ++ event.handed name := by
  rw [handedTo, since_concat h, List.flatMap_append, handedTo, List.flatMap_singleton]

/-- What happens to others leaves the account as it is. -/
theorem account_besides (h : event.Besides name) (events : List Event) :
    issuedTo name (events ++ [event]) = issuedTo name events ∧
      handedTo name (events ++ [event]) = handedTo name events := by
  cases event with
  | announced notice => exact h.elim
  | subscribed other =>
    have hne : subscribed other ≠ subscribed name := fun heq => h (subscribed.inj heq)
    rw [issuedTo_concat hne, handedTo_concat hne]
    exact ⟨List.append_nil _, List.append_nil _⟩
  | delivered other notices =>
    have hne : delivered other notices ≠ subscribed name := nofun
    rw [issuedTo_concat hne, handedTo_concat hne, handed, if_neg h]
    exact ⟨List.append_nil _, List.append_nil _⟩

end Event

namespace Memory

/-- What a delivery to a subscriber hands over, unless it fails. -/
def handsOver (memory : Memory) (subscriber : Subscriber) : Option (List Notice) :=
  ((drain subscriber).run memory).ending.value?.bind fun drained =>
    if drained.failure.isNone then some drained.notices else none

/-- The mailbox of a subscriber holds what his account says is outstanding, with one signal for each
announcement. -/
def Agrees (memory : Memory) (events : List Event) (subscriber : Subscriber) : Prop :=
  ∃ box, memory.mailboxes.get? subscriber.id = some box ∧ box.receiver = subscriber.receiver ∧
    box.signals = box.queue.length ∧
    Event.issuedTo subscriber.id events = Event.handedTo subscriber.id events ++ box.queue

variable {memory later : Memory} {events : List Event} {subscriber : Subscriber}

theorem handsOver_of_none (h : memory.faults.get? .drain = none) (subscriber : Subscriber) :
    memory.handsOver subscriber = some (memory.pending subscriber.id) := by
  rw [handsOver, (drain_of_none h).1]
  rfl

theorem handsOver_of_some {code : Code} (h : memory.faults.get? .drain = some code)
    (subscriber : Subscriber) : memory.handsOver subscriber = none := by
  rw [handsOver, (drain_of_some h).1]
  rfl

theorem Agrees.pending_eq (h : memory.Agrees events subscriber) :
    memory.pending subscriber.id = Event.owedTo subscriber.id events ∧
      Event.issuedTo subscriber.id events =
        Event.handedTo subscriber.id events ++ Event.owedTo subscriber.id events := by
  obtain ⟨box, hbox, -, -, hqueue⟩ := h
  have howed : Event.owedTo subscriber.id events = box.queue := by
    rw [Event.owedTo, hqueue, List.drop_left]
  rw [pending, hbox, howed]
  exact ⟨rfl, hqueue⟩

theorem agrees_subscribed (memory : Memory) (events : List Event) :
    memory.subscribed.Agrees (events ++ [.subscribed memory.next]) memory.nextSubscriber := by
  refine ⟨_, (Table.get?_insert ..).trans (if_pos rfl), rfl, rfl, ?_⟩
  change Event.issuedTo memory.next _ = Event.handedTo memory.next _ ++ []
  rw [Event.issuedTo, Event.handedTo, Event.since_subscribed]
  rfl

theorem Agrees.mailboxes (h : memory.Agrees events subscriber)
    (heq : later.mailboxes.get? subscriber.id = memory.mailboxes.get? subscriber.id) :
    later.Agrees events subscriber := by
  obtain ⟨box, hbox, hrest⟩ := h
  exact ⟨box, heq.trans hbox, hrest⟩

/-- What happens to others leaves the mailbox and its account as they are. -/
theorem Agrees.besides (h : memory.Agrees events subscriber)
    (heq : later.mailboxes.get? subscriber.id = memory.mailboxes.get? subscriber.id)
    {event : Option Event} (hevent : ∀ other, event = some other → other.Besides subscriber.id) :
    later.Agrees (events ++ event.toList) subscriber := by
  cases event with
  | none => exact (List.append_nil events).symm ▸ h.mailboxes heq
  | some event =>
    obtain ⟨box, hbox, hreceiver, hsignals, hqueue⟩ := h
    obtain ⟨hissued, hhanded⟩ := Event.account_besides (hevent event rfl) events
    refine ⟨box, heq.trans hbox, hreceiver, hsignals, ?_⟩
    rw [Option.toList_some, hissued, hhanded]
    exact hqueue

theorem Agrees.announce (h : memory.Agrees events subscriber) (notice : Notice) :
    (memory.announce notice).Agrees (events ++ [.announced notice]) subscriber := by
  obtain ⟨box, hbox, hreceiver, hsignals, hqueue⟩ := h
  refine ⟨box.post notice, ?_, hreceiver, ?_, ?_⟩
  · rw [get?_announce, hbox]
    rfl
  · change box.signals + 1 = (box.queue ++ [notice]).length
    rw [hsignals, List.length_append, List.length_singleton]
  · have hne : Event.announced notice ≠ .subscribed subscriber.id := nofun
    rw [Event.issuedTo_concat hne, Event.handedTo_concat hne, hqueue]
    simp [Event.notice?, Event.handed, Mailbox.post]

/-- What is done from outside changes a mailbox by what it announces. -/
theorem Agrees.publishes (h : memory.Agrees events subscriber) {change : Memory → Memory}
    {notice : Option Notice} (hpublishes : Publishes change notice) :
    (change memory).Agrees (events ++ (notice.map .announced).toList) subscriber := by
  cases notice with
  | none =>
    exact h.besides (congrArg (Table.get? · subscriber.id) (hpublishes.stays memory).mailboxes) nofun
  | some notice =>
    obtain ⟨present, heq⟩ := hpublishes.eq_announce memory
    have hpresent : ({ memory with present } : Memory).Agrees events subscriber := h.mailboxes rfl
    exact heq ▸ hpresent.announce notice

/-- A delivery hands over what is in the mailbox, and takes the signals. -/
theorem Agrees.drained (h : memory.Agrees events subscriber) :
    (memory.drained subscriber).Agrees
      (events ++ [.delivered subscriber.id (memory.pending subscriber.id)]) subscriber := by
  obtain ⟨box, hbox, hreceiver, hsignals, hqueue⟩ := h
  refine ⟨box.empty, ?_, hreceiver, rfl, ?_⟩
  · refine (Table.get?_update ..).trans ?_
    rw [if_pos rfl, hbox]
    rfl
  · have hne : Event.delivered subscriber.id (memory.pending subscriber.id) ≠
        .subscribed subscriber.id := nofun
    rw [Event.issuedTo_concat hne, Event.handedTo_concat hne, hqueue, pending, hbox]
    simp [Event.notice?, Event.handed, Mailbox.empty]

end Memory

end Hotplug
