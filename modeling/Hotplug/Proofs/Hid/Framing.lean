import Hotplug.Proofs.Hid.Items
/-!
# Framing of a report descriptor

The walk over a report descriptor stays in step with its items. Items that declare nothing do not count,
whatever their data look like; what stands behind the first collection is not looked at; and an item that
is cut off ends the walk where it begins. The walk can also be made by place in a buffer: it looks at no
place outside the buffer, and each turn takes it further.

## Main definitions

* `Hotplug.Hid.Item.isSilent`: items that neither declare anything nor open a collection.
* `Hotplug.Hid.Usage.walk?`: the walk by place.

## Main statements

* `Hotplug.Hid.Usage.scan_take_bytes`: an item that is cut off.
* `Hotplug.Hid.Usage.walk?_eq_scan`: the walk by place looks only at places that there are, and comes to
  an end.
* `Hotplug.Hid.Usage.ofDescriptor_in_step`
-/

namespace Hotplug.Hid

/-- Whether an item neither declares a page or a usage nor opens a collection. -/
def Item.isSilent : Item → Bool
  | short kind _ => kind ≠ usagePage ∧ kind ≠ usage ∧ kind ≠ collection
  | long .. => true

namespace Usage

variable {found : Usage} {item : Item} {items : List Item} {buffer : Bytes}

theorem declare_of_isSilent (h : item.isSilent = true) : found.declare item = found := by
  cases item with
  | long tag data => rfl
  | short kind data =>
    obtain ⟨hpage, husage, -⟩ := of_decide_eq_true h
    simp only [declare, if_neg hpage, if_neg husage]

/-- Items that are silent do not count among those declared. -/
theorem foldl_declare_filter (items : List Item) (found : Usage) :
    (items.filter fun item => !item.isSilent).foldl declare found = items.foldl declare found := by
  induction items generalizing found with
  | nil => rfl
  | cons item later ih =>
    cases h : item.isSilent with
    | true =>
      rw [List.filter_cons_of_neg (by simp [h]), List.foldl_cons, declare_of_isSilent h, ih]
    | false => rw [List.filter_cons_of_pos (by simp [h]), List.foldl_cons, List.foldl_cons, ih]

/-! ### Items that are cut off -/

theorem scan_nil : scan found [] = found :=
  scan_of_none rfl

theorem scan_longMark : scan found [Item.longMark] = found :=
  scan_of_none (by simp [Item.next?])

/-- A long item is passed over by its size, whether it is all there or not. -/
theorem scan_long (size : UInt8) (body : Bytes) :
    scan found (Item.longMark :: size :: body) = scan found (body.drop (1 + size.toNat)) := by
  have hnext : Item.next? (Item.longMark :: size :: body) = some
      (.long (body.headD 0) ((body.drop 1).take size.toNat), body.drop (1 + size.toNat)) := by
    simp [Item.next?]
  rw [scan_of_some hnext]
  rfl

theorem scan_short_of_lt {mark : UInt8} {tail : Bytes} (hmark : mark ≠ Item.longMark)
    (h : tail.length < Item.shortSize mark) : scan found (mark :: tail) = found := by
  refine scan_of_none ?_
  have hcut : (tail.take (Item.shortSize mark)).length ≠ Item.shortSize mark := by
    rw [List.length_take]
    omega
  simp only [Item.next?, if_neg hmark, if_neg hcut]

theorem scan_short_of_le {mark : UInt8} {tail : Bytes} (hmark : mark ≠ Item.longMark)
    (h : Item.shortSize mark ≤ tail.length) :
    scan found (mark :: tail) =
      let item := Item.short (mark &&& 0xFC) (tail.take (Item.shortSize mark))
      if opens item then found else scan (found.declare item) (tail.drop (Item.shortSize mark)) := by
  refine scan_of_some ?_
  have hwhole : (tail.take (Item.shortSize mark)).length = Item.shortSize mark := by
    rw [List.length_take]
    omega
  simp only [Item.next?, if_neg hmark, if_pos hwhole]

/-- The walk ends at an item that is cut off, with what was found before. -/
theorem scan_take_bytes (h : item.WellFormed) {count : Nat} (hcount : count < item.bytes.length) :
    scan found (item.bytes.take count) = found := by
  cases item with
  | short kind data =>
    obtain ⟨hkind, hsize, hmark⟩ := h
    cases count with
    | zero => exact scan_nil
    | succ given =>
      rw [Item.bytes, List.length_cons] at hcount
      rw [Item.bytes, List.take_succ_cons]
      refine scan_short_of_lt hmark ?_
      rw [Item.shortSize_or_sizeBits hkind hsize, List.length_take]
      omega
  | long tag data =>
    have hlength : (UInt8.ofNat data.length).toNat = data.length := UInt8.toNat_ofNat_of_lt' h
    obtain rfl | rfl | ⟨given, rfl⟩ : count = 0 ∨ count = 1 ∨ ∃ given, count = given + 2 := by
      rcases count with _ | _ | given <;> simp
    · exact scan_nil
    · exact scan_longMark
    · -- What is there of the tag and the data is less than what the size says.
      have hbody : ((tag :: data).take given).drop (1 + data.length) = [] := by
        refine List.drop_eq_nil_of_le ?_
        rw [List.length_take, List.length_cons]
        omega
      have hcut : (Item.long tag data).bytes.take (given + 2) =
          Item.longMark :: .ofNat data.length :: (tag :: data).take given := rfl
      rw [hcut, scan_long, hlength, hbody, scan_nil]

/-- What stands behind some items counts only as far as the walk over it finds something. -/
theorem scan_encode_append (hitems : ∀ item ∈ items, item.WellFormed) {tail : Bytes}
    (htail : ∀ found, scan found tail = found) (found : Usage) :
    scan found (encode items ++ tail) = scan found (encode items) := by
  induction items generalizing found with
  | nil => exact (htail found).trans scan_nil.symm
  | cons item later ih =>
    obtain ⟨hitem, hlater⟩ := List.forall_mem_cons.1 hitems
    rw [encode_cons, List.append_assoc]
    cases hopens : opens item with
    | true => rw [scan_bytes_of_opens hitem hopens, scan_bytes_of_opens hitem hopens]
    | false => rw [scan_bytes hitem hopens, scan_bytes hitem hopens, ih hlater]

/-! ### The walk by place -/

/-- So many bytes of a buffer from a place on, if they all lie in it. -/
def slice? (buffer : Bytes) (place count : Nat) : Option Bytes :=
  if place + count ≤ buffer.length then some ((buffer.drop place).take count) else none

/-- The walk over a buffer from a place on, in so many turns at most. There is no result if the turns do
not suffice, or if the walk looks at a place outside the buffer. Whether there is a size behind the mark
of a long item is asked beforehand. -/
def walk? (buffer : Bytes) : Nat → Nat → Usage → Option Usage
  | 0, _, _ => none
  | turns + 1, place, found =>
    if buffer.length ≤ place then some found
    else do
      let mark ← buffer[place]?
      if mark = Item.longMark then
        if buffer.length ≤ place + 1 then return found
        let size ← buffer[place + 1]?
        walk? buffer turns (place + 3 + size.toNat) found
      else
        let size := Item.shortSize mark
        if buffer.length ≤ place + size then return found
        let item := Item.short (mark &&& 0xFC) (← slice? buffer (place + 1) size)
        if opens item then return found
        walk? buffer turns (place + size + 1) (found.declare item)

/-- The walk by place looks only at places that there are, comes to an end in as many turns as there are
bytes left and one more, and finds what the walk over the bytes finds. -/
theorem walk?_eq_scan {turns place : Nat} (hturns : buffer.length - place < turns) (found : Usage) :
    walk? buffer turns place found = some (scan found (buffer.drop place)) := by
  -- Each turn takes the place further by at least one, so the turns suffice for what is left.
  induction turns generalizing place found with
  | zero => exact absurd hturns (Nat.not_lt_zero _)
  | succ turns ih =>
    rw [walk?]
    split
    · next hend => rw [List.drop_eq_nil_of_le hend, scan_nil]
    · next hplace =>
      have hlt : place < buffer.length := Nat.not_le.1 hplace
      rw [List.drop_eq_getElem_cons hlt, List.getElem?_eq_getElem hlt]
      generalize buffer[place] = mark
      simp only [Option.bind_eq_bind, Option.bind_some]
      by_cases hmark : mark = Item.longMark
      · rw [if_pos hmark, hmark]
        split
        · next hend => rw [List.drop_eq_nil_of_le hend, scan_longMark]; rfl
        · next hsize =>
          have hlt' : place + 1 < buffer.length := Nat.not_le.1 hsize
          rw [List.drop_eq_getElem_cons hlt', List.getElem?_eq_getElem hlt', scan_long,
            List.drop_drop, Option.bind_some, ih (by omega)]
          congr 3
          omega
      · rw [if_neg hmark]
        split
        · next hend =>
          rw [scan_short_of_lt hmark (by rw [List.length_drop]; omega)]
          rfl
        · next hdata =>
          -- The last byte of the data is the last place that is looked at.
          have hwhole : place + 1 + Item.shortSize mark ≤ buffer.length := by omega
          rw [scan_short_of_le hmark (by rw [List.length_drop]; omega), slice?, if_pos hwhole,
            Option.bind_some, List.drop_drop]
          dsimp only
          split
          · rfl
          · rw [ih (by omega), Nat.add_right_comm]

/-! ### Staying in step -/

/-- A descriptor is read in step with its items. Among those before the first collection, silent items
may come and go. Nothing behind the item that opens the collection counts. Cutting the descriptor inside
an item is cutting it where the item begins. And whatever the bytes are, the walk over them looks at no
place outside and comes to an end. -/
theorem ofDescriptor_in_step (hitems : ∀ item ∈ items, item.WellFormed) :
    (∀ early other late, items = early ++ late → (∀ item ∈ early, opens item = false) →
      (∀ item ∈ other, item.WellFormed) → (∀ item ∈ other, opens item = false) →
      (other.filter fun item => !item.isSilent) = (early.filter fun item => !item.isSilent) →
      ofDescriptor (encode (other ++ late)) = ofDescriptor (encode items)) ∧
    (∀ early coll late, items = early ++ coll :: late → (∀ item ∈ early, opens item = false) →
      opens coll = true → ∀ tail,
      ofDescriptor (encode (early ++ [coll]) ++ tail) = ofDescriptor (encode items)) ∧
    (∀ early item late, items = early ++ item :: late → ∀ count, 0 < count →
      count < item.bytes.length →
      ofDescriptor ((encode items).take ((encode early).length + count)) =
        ofDescriptor ((encode items).take (encode early).length)) ∧
    ∀ bytes, walk? bytes (bytes.length + 1) 0 {} = some (ofDescriptor bytes) := by
  refine ⟨?_, ?_, ?_, fun bytes => walk?_eq_scan (Nat.lt_succ_self _) {}⟩
  · rintro early other late rfl hearly hother hclosed hsame
    have hwell : ∀ item ∈ early, item.WellFormed :=
      fun item hmem => hitems item (List.mem_append_left _ hmem)
    -- Both walks come to the later items with what the items that are not silent declare.
    have hfound : other.foldl declare {} = early.foldl declare {} := by
      rw [← foldl_declare_filter other, hsame, foldl_declare_filter]
    rw [ofDescriptor, ofDescriptor, encode_append, encode_append, scan_encode hother hclosed,
      scan_encode hwell hearly, hfound]
  · rintro early coll late rfl hearly hcoll tail
    have hwell : ∀ item ∈ early, item.WellFormed :=
      fun item hmem => hitems item (List.mem_append_left _ hmem)
    have hwellColl : coll.WellFormed :=
      hitems coll (List.mem_append_right _ (List.mem_cons_self ..))
    have hstop (rest : Bytes) :
        ofDescriptor (encode early ++ (coll.bytes ++ rest)) = early.foldl declare {} := by
      rw [ofDescriptor, scan_encode hwell hearly, scan_bytes_of_opens hwellColl hcoll]
    rw [encode_append, encode_append, encode_cons, encode_cons, List.append_assoc,
      List.append_assoc, hstop, hstop]
  · rintro early item late rfl count - hcount
    have hwell : ∀ item ∈ early, item.WellFormed :=
      fun item hmem => hitems item (List.mem_append_left _ hmem)
    have hwellItem : item.WellFormed :=
      hitems item (List.mem_append_right _ (List.mem_cons_self ..))
    rw [encode_append, encode_cons, List.take_length_add_append, List.take_left,
      List.take_append_of_le_length (Nat.le_of_lt hcount), ofDescriptor, ofDescriptor,
      scan_encode_append hwell fun found => scan_take_bytes hwellItem hcount]

/-- The data of the items look like prefixes of others. The descriptor is the same with another silent
item in place of the long one, with anything behind its collection, and it is as good cut behind the
second byte of the long item as in front of it. -/
theorem ofDescriptor_in_step_vendor :
    let early : List Item := [.short Item.usagePage [0x00, 0xFF], .long 0xA1 [0x05, 0x07, 0xA1],
      .short Item.usage [0xFE]]
    let other : List Item := [.short Item.usagePage [0x00, 0xFF], .short Item.usage [0xFE],
      .short 0x14 [0x09, 0x07]]
    let late : List Item := [.short Item.collection [0x01], .short Item.usagePage [0x07]]
    (∀ item ∈ early ++ late, item.WellFormed) ∧
      ofDescriptor (encode (other ++ late)) = ofDescriptor (encode (early ++ late)) ∧
      (∀ tail, ofDescriptor (encode (early ++ [.short Item.collection [0x01]]) ++ tail) =
        ofDescriptor (encode (early ++ late))) ∧
      ofDescriptor ((encode (early ++ late)).take 5) =
        ofDescriptor ((encode (early ++ late)).take 3) ∧
      walk? (encode (early ++ late)) 16 0 {} = some (ofDescriptor (encode (early ++ late))) := by
  intro early other late
  have hitems : ∀ item ∈ early ++ late, item.WellFormed := by decide
  obtain ⟨hsilent, htail, hcut, hwalk⟩ := ofDescriptor_in_step hitems
  refine ⟨hitems, hsilent early other late rfl (by decide) (by decide) (by decide) (by decide),
    htail early _ _ rfl (by decide) (by decide), ?_, hwalk _⟩
  exact hcut [.short Item.usagePage [0x00, 0xFF]] (.long 0xA1 [0x05, 0x07, 0xA1])
    (.short Item.usage [0xFE] :: late) rfl 2 (by decide) (by decide)

end Usage

end Hotplug.Hid
