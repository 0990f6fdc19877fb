import Hotplug.Bytes
/-!
# Report descriptors

A report descriptor is a sequence of items. A short item has a prefix byte, which gives its kind and
how many data bytes follow (0, 1, 2 or 4, least significant first); a long item gives the number of
its data bytes in a byte of its own. The top-level usage is what was declared when the first
collection opens.

## Main definitions

* `Hotplug.Hid.Item`, `Hotplug.Hid.Item.next?`: the item at the start of some bytes.
* `Hotplug.Hid.Usage.ofDescriptor`: the top-level usage of a descriptor.
-/

namespace Hotplug.Hid

/-- An item of a report descriptor. -/
inductive Item
  /-- A short item: its prefix without the size bits, and its data. -/
  | short (kind : UInt8) (data : Bytes)
  /-- A long item. -/
  | long (tag : UInt8) (data : Bytes)
  deriving DecidableEq, Repr

namespace Item

/-- The prefix of every long item. -/
def longMark : UInt8 := 0xFE
/-- The kind of items that declare a usage page. -/
def usagePage : UInt8 := 0x04
/-- The kind of items that declare a usage. -/
def usage : UInt8 := 0x08
/-- The kind of items that open a collection. -/
def collection : UInt8 := 0xA0

/-- How many data bytes a short item has, from its prefix. -/
def shortSize (mark : UInt8) : Nat :=
  match (mark &&& 0x3).toNat with
  | 3 => 4
  | n => n

/-- The item at the start of some bytes, with the bytes behind it. An item that runs past the end
is no item; a long item cut off anywhere behind its size byte counts as one with nothing behind
it. -/
def next? : Bytes → Option (Item × Bytes)
  | [] => none
  | mark :: rest =>
    if mark = longMark then
      match rest with
      | [] => none
      | size :: body =>
        some (.long (body.headD 0) ((body.drop 1).take size.toNat), body.drop (1 + size.toNat))
    else
      let data := rest.take (shortSize mark)
      if data.length = shortSize mark then
        some (.short (mark &&& 0xFC) data, rest.drop (shortSize mark))
      else none

theorem length_next?_lt {bytes rest : Bytes} {item : Item}
    (h : next? bytes = some (item, rest)) : rest.length < bytes.length := by
  cases bytes with
  | nil => simp [next?] at h
  | cons mark tail =>
    simp only [next?] at h
    split at h
    · cases tail with
      | nil => simp at h
      | cons size body =>
        simp only [Option.some.injEq, Prod.mk.injEq] at h
        rw [← h.2]
        simp only [List.length_drop, List.length_cons]
        omega
    · split at h
      · simp only [Option.some.injEq, Prod.mk.injEq] at h
        rw [← h.2]
        simp only [List.length_drop, List.length_cons]
        omega
      · simp at h

end Item

/-- What a device is for, as its report descriptor declares it. -/
structure Usage where
  /-- The page that the usage is taken from. -/
  page : UInt16 := 0
  usage : UInt16 := 0
  deriving DecidableEq, Repr, Inhabited

namespace Usage

/-- Takes in the declaration of one item; later declarations replace earlier ones. -/
def declare (found : Usage) : Item → Usage
  | .short kind data =>
    if kind = Item.usagePage then { found with page := .ofNat (littleEndian data) }
    else if kind = Item.usage then { found with usage := .ofNat (littleEndian data) }
    else found
  | .long .. => found

/-- Whether an item opens a collection. -/
def opens : Item → Bool
  | .short kind _ => kind == Item.collection
  | .long .. => false

/-- Walks the items up to the first collection, or to the first item that is cut off. -/
def scan (found : Usage) (bytes : Bytes) : Usage :=
  match _h : Item.next? bytes with
  | none => found
  | some (item, rest) => if opens item then found else scan (found.declare item) rest
  termination_by bytes.length
  decreasing_by exact Item.length_next?_lt _h

/-- The top-level usage of a report descriptor. -/
def ofDescriptor (bytes : Bytes) : Usage :=
  scan {} bytes

end Usage

end Hotplug.Hid
