import Hotplug.Bytes
/-!
# Conduits

One direction of a pair of connected descriptors. What is sent waits in packets until it is received.
The sender is charged for every packet, for the memory that it takes and not for its bytes alone, until
the packet has been received as a whole. As long as the charge is below a budget, one more packet may
be sent.

## Main definitions

* `Hotplug.Conduit`, `Hotplug.Conduit.pending`: packets, and the bytes that wait in them.
* `Hotplug.Conduit.send`: sends as much as there is room for.
* `Hotplug.Conduit.receive`: receives what waits, up to a length.

Nothing is lost, doubled or moved: `pending_send` and `receive_append_pending` say so.
-/

namespace Hotplug

/-- Bytes that were sent together. -/
structure Conduit.Packet where
  /-- The bytes that were not received yet. -/
  bytes : Bytes
  /-- What the sender is charged for the packet. -/
  charge : Nat
  deriving DecidableEq, Repr

/-- One direction of a pair of connected descriptors. -/
structure Conduit where
  /-- The packets that were not received as a whole, oldest first. -/
  packets : List Conduit.Packet := []
  deriving DecidableEq, Repr

namespace Conduit

/-- A sender whose charge has come to this may send nothing more. -/
def budget : Nat := 212992

/-- How many bytes one packet holds at most. -/
def packetLimit : Nat := 36544

/-- How many bytes of a packet find room beside its head. -/
def headRoom : Nat := 3776

/-- The size of a page of memory. -/
def pageSize : Nat := 4096

/-- The size of the pages that hold so many bytes. -/
def pagesFor (size : Nat) : Nat :=
  (size + (pageSize - 1)) / pageSize * pageSize

/-- The size of the block that holds the head of a packet and so many bytes beside it. -/
def blockFor (size : Nat) : Nat :=
  if size ≤ 192 then 512
  else if size ≤ 704 then 1024
  else if size ≤ 1728 then 2048
  else 4096

/-- What is charged for a packet of so many bytes: for its description, for the block with its head,
and for the pages of what does not fit there. -/
def chargeFor (size : Nat) : Nat :=
  let paged := min size (pagesFor (size - headRoom))
  256 + blockFor (size - paged) + pagesFor paged

/-- The bytes that wait, oldest first. -/
def pending (conduit : Conduit) : Bytes :=
  conduit.packets.flatMap Packet.bytes

/-- Whether nothing waits. -/
def isEmpty (conduit : Conduit) : Bool :=
  conduit.packets.all (·.bytes.isEmpty)

/-- What the sender is charged. -/
def charge (conduit : Conduit) : Nat :=
  conduit.packets.foldr (fun packet total => packet.charge + total) 0

/-- Whether one more packet may be sent. -/
def hasRoom (conduit : Conduit) : Bool :=
  conduit.charge < budget

/-- Whether so much room is left that the sender is called ready. -/
def isReady (conduit : Conduit) : Bool :=
  4 * conduit.charge < budget

/-- Puts one packet behind the others. -/
def push (conduit : Conduit) (bytes : Bytes) : Conduit :=
  ⟨conduit.packets ++ [⟨bytes, chargeFor bytes.length⟩]⟩

/-- Sends bytes, in packets as long as possible, while there is room. Answers also what is left. -/
def send (conduit : Conduit) (data : Bytes) : Conduit × Bytes :=
  if _h : data = [] ∨ conduit.hasRoom = false then (conduit, data)
  else (conduit.push (data.take packetLimit)).send (data.drop packetLimit)
  termination_by data.length
  decreasing_by
    rw [not_or] at _h
    simp only [List.length_drop, packetLimit]
    grind [List.length_pos_iff]

/-- Takes bytes out of packets, up to a length. -/
def takeFrom : List Packet → Nat → Bytes × List Packet
  | [], _ => ([], [])
  | packet :: rest, length =>
    if length < packet.bytes.length then
      (packet.bytes.take length, { packet with bytes := packet.bytes.drop length } :: rest)
    else
      let (more, left) := takeFrom rest (length - packet.bytes.length)
      (packet.bytes ++ more, left)

/-- Receives what waits, up to a length. -/
def receive (conduit : Conduit) (length : Nat) : Bytes × Conduit :=
  let (bytes, packets) := takeFrom conduit.packets length
  (bytes, ⟨packets⟩)

@[simp] theorem pending_push (conduit : Conduit) (bytes : Bytes) :
    (conduit.push bytes).pending = conduit.pending ++ bytes := by
  simp [push, pending]

theorem isEmpty_iff (conduit : Conduit) : conduit.isEmpty = true ↔ conduit.pending = [] := by
  simp [isEmpty, pending]

/-- What waits after sending, with what is left, is what waited before with what was to be sent. -/
theorem pending_send (conduit : Conduit) (data : Bytes) :
    (conduit.send data).1.pending ++ (conduit.send data).2 = conduit.pending ++ data := by
  fun_induction send conduit data with
  | case1 => rfl
  | case2 conduit data _ ih => simp [ih]

theorem takeFrom_append (packets : List Packet) (length : Nat) :
    (takeFrom packets length).1 ++ (takeFrom packets length).2.flatMap Packet.bytes =
      packets.flatMap Packet.bytes := by
  induction packets generalizing length with
  | nil => rfl
  | cons packet rest ih =>
    simp only [takeFrom]
    split
    · simp [← List.append_assoc]
    · simp [ih]

theorem takeFrom_fst (packets : List Packet) (length : Nat) :
    (takeFrom packets length).1 = (packets.flatMap Packet.bytes).take length := by
  induction packets generalizing length with
  | nil => simp [takeFrom]
  | cons packet rest ih =>
    simp only [takeFrom]
    split
    · rw [List.flatMap_cons, List.take_append_of_le_length (by omega)]
    · have h : packet.bytes.length ≤ length := by omega
      simp [ih, List.take_append, List.take_of_length_le h]

/-- What is received comes first of what waits. -/
theorem receive_fst (conduit : Conduit) (length : Nat) :
    (conduit.receive length).1 = conduit.pending.take length :=
  takeFrom_fst conduit.packets length

/-- What is received, with what waits then, is what waited before. -/
theorem receive_append_pending (conduit : Conduit) (length : Nat) :
    (conduit.receive length).1 ++ (conduit.receive length).2.pending = conduit.pending :=
  takeFrom_append conduit.packets length

end Conduit

end Hotplug
