import Hotplug.Hid.Descriptor
/-!
# Items of a report descriptor

A report descriptor is written item by item, and read in the same way: whatever stands behind an item,
the item is read back, and the walk goes on behind it. So what the walk makes of a descriptor is said by
its items. The walk keeps the last usage page and the last usage that are declared before the first
collection opens.

## Main definitions

* `Hotplug.Hid.Item.bytes`, `Hotplug.Hid.encode`: an item, and a sequence of items, as bytes.
* `Hotplug.Hid.Item.WellFormed`: the items that can be written.
* `Hotplug.Hid.declared`: what the items of a kind declare before the first collection.

## Main statements

* `Hotplug.Hid.Item.next?_bytes`: an item is read back.
* `Hotplug.Hid.Usage.scan_encode`: the walk over items none of which opens a collection.
* `Hotplug.Hid.Usage.ofDescriptor_encode_last`: which declarations a descriptor is taken for.
-/

namespace Hotplug.Hid

namespace Item

/-- The size bits in the prefix of a short item, from the number of its data bytes. -/
def sizeBits : Nat → UInt8
  | 4 => 3
  | n => .ofNat n

/-- The bytes of an item. -/
def bytes : Item → Bytes
  | short kind data => (kind ||| sizeBits data.length) :: data
  | long tag data => longMark :: .ofNat data.length :: tag :: data

/-- An item that can be written. The kind of a short item leaves the size bits free, its data have one of
four sizes, and its prefix is not that of long items. The data of a long item have a size that fits a
byte. -/
def WellFormed : Item → Prop
  | short kind data =>
    kind &&& 0xFC = kind ∧ data.length ∈ [0, 1, 2, 4] ∧ kind ||| sizeBits data.length ≠ longMark
  | long _ data => data.length < 256

instance : DecidablePred WellFormed
  | short kind data => inferInstanceAs (Decidable (kind &&& 0xFC = kind ∧
      data.length ∈ [0, 1, 2, 4] ∧ kind ||| sizeBits data.length ≠ longMark))
  | long _ data => inferInstanceAs (Decidable (data.length < 256))

/-! ### Prefixes of short items -/

theorem or_and (kind bits mask : UInt8) :
    (kind ||| bits) &&& mask = (kind &&& mask) ||| (bits &&& mask) :=
  UInt8.toBitVec_inj.1 BitVec.and_or_distrib_right

theorem shortSize_or_sizeBits {kind : UInt8} (hkind : kind &&& 0xFC = kind) {size : Nat}
    (hsize : size ∈ [0, 1, 2, 4]) : shortSize (kind ||| sizeBits size) = size := by
  -- The kind has none of the size bits, so they are those of the size.
  have hfree : kind &&& 0x3 = 0 := by
    rw [← hkind, UInt8.and_assoc]
    exact UInt8.and_zero
  rw [shortSize, or_and, hfree, UInt8.zero_or]
  simp only [List.mem_cons, List.not_mem_nil, or_false] at hsize
  rcases hsize with rfl | rfl | rfl | rfl <;> rfl

theorem or_sizeBits_and {kind : UInt8} (hkind : kind &&& 0xFC = kind) {size : Nat}
    (hsize : size ∈ [0, 1, 2, 4]) : (kind ||| sizeBits size) &&& 0xFC = kind := by
  have hbits : sizeBits size &&& 0xFC = 0 := by
    simp only [List.mem_cons, List.not_mem_nil, or_false] at hsize
    rcases hsize with rfl | rfl | rfl | rfl <;> rfl
  rw [or_and, hkind, hbits, UInt8.or_zero]

/-! ### Reading items -/

theorem next?_short {kind : UInt8} {data : Bytes} (h : (short kind data).WellFormed) (tail : Bytes) :
    next? ((kind ||| sizeBits data.length) :: tail) =
      if (tail.take data.length).length = data.length then
        some (short kind (tail.take data.length), tail.drop data.length) else none := by
  obtain ⟨hkind, hsize, hmark⟩ := h
  simp only [next?, if_neg hmark, shortSize_or_sizeBits hkind hsize, or_sizeBits_and hkind hsize]

/-- An item is read back, whatever stands behind it. -/
theorem next?_bytes {item : Item} (h : item.WellFormed) (rest : Bytes) :
    next? (item.bytes ++ rest) = some (item, rest) := by
  cases item with
  | short kind data =>
    rw [bytes, List.cons_append, next?_short h, List.take_left, List.drop_left, if_pos rfl]
  | long tag data =>
    have hlength : (UInt8.ofNat data.length).toNat = data.length := UInt8.toNat_ofNat_of_lt' h
    simp only [bytes, List.cons_append, next?, if_true, hlength, Nat.add_comm 1, List.drop_succ_cons,
      List.drop_zero, List.headD_cons, List.take_left, List.drop_left]

end Item

/-- The bytes of a sequence of items. -/
def encode (items : List Item) : Bytes :=
  items.flatMap Item.bytes

@[simp] theorem encode_append (a b : List Item) : encode (a ++ b) = encode a ++ encode b :=
  List.flatMap_append

@[simp] theorem encode_cons (item : Item) (rest : List Item) :
    encode (item :: rest) = item.bytes ++ encode rest :=
  List.flatMap_cons

namespace Usage

variable {found : Usage} {bytes rest : Bytes} {item : Item} {items : List Item}

/-! ### The walk over items -/

theorem scan_of_none (h : Item.next? bytes = none) : scan found bytes = found := by
  rw [scan]
  split
  · rfl
  · next heq => cases h.symm.trans heq

theorem scan_of_some (h : Item.next? bytes = some (item, rest)) :
    scan found bytes = if opens item then found else scan (found.declare item) rest := by
  rw [scan]
  split
  · next heq => cases h.symm.trans heq
  · next heq =>
    cases h.symm.trans heq
    rfl

theorem scan_bytes_of_opens (h : item.WellFormed) (hopens : opens item = true) (rest : Bytes) :
    scan found (item.bytes ++ rest) = found := by
  rw [scan_of_some (item.next?_bytes h rest), if_pos hopens]

theorem scan_bytes (h : item.WellFormed) (hopens : opens item = false) (rest : Bytes) :
    scan found (item.bytes ++ rest) = scan (found.declare item) rest := by
  rw [scan_of_some (item.next?_bytes h rest), hopens]
  rfl

/-- The walk over items none of which opens a collection takes in what they declare, in order, and goes
on behind them. -/
theorem scan_encode (hitems : ∀ item ∈ items, item.WellFormed)
    (hopens : ∀ item ∈ items, opens item = false) (rest : Bytes) :
    scan found (encode items ++ rest) = scan (items.foldl declare found) rest := by
  induction items generalizing found with
  | nil => rfl
  | cons item later ih =>
    obtain ⟨hitem, hlater⟩ := List.forall_mem_cons.1 hitems
    obtain ⟨hclosed, hclosedLater⟩ := List.forall_mem_cons.1 hopens
    rw [encode_cons, List.append_assoc, scan_bytes hitem hclosed, ih hlater hclosedLater]
    rfl

end Usage

/-! ### What a descriptor declares -/

/-- What an item of some kind declares: the low 16 bits of its data, least significant byte first. -/
def Item.value? (kind : UInt8) : Item → Option UInt16
  | short other data => if other = kind then some (.ofNat (littleEndian data)) else none
  | long .. => none

/-- What the items of a kind declare before the first collection, in order. -/
def declared (kind : UInt8) (items : List Item) : List UInt16 :=
  (items.takeWhile fun item => !Usage.opens item).filterMap (Item.value? kind)

namespace Usage

variable {items : List Item}

/-- Of everything that items declare, the last page and the last usage are kept. -/
theorem foldl_declare (items : List Item) (found : Usage) :
    items.foldl declare found =
      ⟨(items.filterMap (Item.value? Item.usagePage)).getLastD found.page,
        (items.filterMap (Item.value? Item.usage)).getLastD found.usage⟩ := by
  induction items generalizing found with
  | nil => rfl
  | cons item later ih =>
    rw [List.foldl_cons, ih]
    cases item with
    | long tag data => rfl
    | short kind data =>
      -- No item is of both kinds, so each changes the page or the usage at most.
      have hkinds : Item.usage ≠ Item.usagePage := by decide
      simp only [List.filterMap_cons, Item.value?, declare]
      by_cases hpage : kind = Item.usagePage
      · simp only [hpage, if_true, if_neg hkinds.symm, List.getLastD_cons]
      · by_cases husage : kind = Item.usage
        · simp only [husage, if_true, if_neg hkinds, List.getLastD_cons]
        · simp only [if_neg hpage, if_neg husage]

/-- The walk over whole items takes in what is declared before the first collection. -/
theorem scan_encode_takeWhile (hitems : ∀ item ∈ items, item.WellFormed) (found : Usage) :
    scan found (encode items) = (items.takeWhile fun item => !opens item).foldl declare found := by
  induction items generalizing found with
  | nil => exact scan_of_none rfl
  | cons item later ih =>
    obtain ⟨hitem, hlater⟩ := List.forall_mem_cons.1 hitems
    rw [encode_cons]
    cases hopens : opens item with
    | true =>
      rw [scan_bytes_of_opens hitem hopens, List.takeWhile_cons_of_neg (by simp [hopens])]
      rfl
    | false =>
      rw [scan_bytes hitem hopens, ih hlater, List.takeWhile_cons_of_pos (by simp [hopens])]
      rfl

/-- A descriptor is taken for the last usage page and the last usage that are declared before its first
collection, and for zero where none is. These are the first ones exactly if the first and the last
declaration agree, of the pages and of the usages. -/
theorem ofDescriptor_encode_last (hitems : ∀ item ∈ items, item.WellFormed) :
    let pages := declared Item.usagePage items
    let usages := declared Item.usage items
    ofDescriptor (encode items) = ⟨pages.getLastD 0, usages.getLastD 0⟩ ∧
      (ofDescriptor (encode items) = ⟨pages.headD 0, usages.headD 0⟩ ↔
        pages.head? = pages.getLast? ∧ usages.head? = usages.getLast?) := by
  intro pages usages
  have hlast : ofDescriptor (encode items) = ⟨pages.getLastD 0, usages.getLastD 0⟩ := by
    rw [ofDescriptor, scan_encode_takeWhile hitems, foldl_declare]
    rfl
  -- Without values, the default stands for the first and for the last.
  have hagree (values : List UInt16) :
      values.getLastD 0 = values.headD 0 ↔ values.head? = values.getLast? := by
    cases values with
    | nil => simp
    | cons value later => simp [List.getLast?_cons, eq_comm]
  refine ⟨hlast, ?_⟩
  rw [hlast, mk.injEq, hagree, hagree]

/-- A descriptor that changes the page and names a second usage, around an item of a vendor, before it
opens a collection. What the collection declares does not count. -/
theorem ofDescriptor_encode_last_vendor :
    let items : List Item :=
      [.short Item.usagePage [0x01], .short Item.usage [0x06, 0x00], .long 0x10 [0x05, 0x07],
        .short Item.usagePage [0x00, 0xFF], .short Item.usage [0x02, 0x00, 0x0C, 0x00],
        .short Item.collection [0x01], .short Item.usagePage [0x07]]
    (∀ item ∈ items, item.WellFormed) ∧ declared Item.usagePage items = [0x01, 0xFF00] ∧
      declared Item.usage items = [0x06, 0x02] ∧ ofDescriptor (encode items) = ⟨0xFF00, 0x02⟩ := by
  intro items
  have hitems : ∀ item ∈ items, item.WellFormed := by decide
  exact ⟨hitems, by decide, by decide, (ofDescriptor_encode_last hitems).1⟩

/-- Declarations that are made again are not taken from the first item. -/
theorem ofDescriptor_passes_over_first :
    let items : List Item :=
      [.short Item.usagePage [0x01], .short Item.usagePage [0x0C], .short Item.usage [0x01],
        .short Item.usage [0x02], .short Item.collection [0x01]]
    (∀ item ∈ items, item.WellFormed) ∧
      encode items = [0x05, 0x01, 0x05, 0x0C, 0x09, 0x01, 0x09, 0x02, 0xA1, 0x01] ∧
      ofDescriptor (encode items) = ⟨0x0C, 0x02⟩ ∧
      ofDescriptor (encode items) ≠
        ⟨(declared Item.usagePage items).headD 0, (declared Item.usage items).headD 0⟩ := by
  intro items
  have hitems : ∀ item ∈ items, item.WellFormed := by decide
  have htaken : ofDescriptor (encode items) = ⟨0x0C, 0x02⟩ := scan_encode_takeWhile hitems {}
  refine ⟨hitems, by decide, htaken, ?_⟩
  rw [htaken]
  decide

end Usage

end Hotplug.Hid
