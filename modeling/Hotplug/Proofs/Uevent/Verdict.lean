import Mathlib.Data.List.TakeWhile
import Hotplug.Proofs.Uevent.Decoding
/-!
# The verdict on a message

Every message, whatever its bytes, is either decoded or rejected for one reason. The fields of a binary
header are arbitrary numbers of 32 bits: only if they place the properties behind the header and inside
the message are these bytes read, and then no others count. The decoder can also be run by place in a
buffer: it looks at no place outside, and no sum of fields is too large for a word of the machine.

## Main definitions

* `Hotplug.Uevent.header`: a binary header with given fields.
* `Hotplug.Uevent.Frames`: where the properties of a message are, or why they are nowhere.
* `Hotplug.Uevent.Lacks`: the first key that is missing.
* `Hotplug.Uevent.Judges`: the verdict on a message.
* `Hotplug.Uevent.decodeInPlace?`: the decoder by place.

## Main statements

* `Hotplug.Uevent.frames_properties`: every message has its properties in one window, or lacks one for a
  reason.
* `Hotplug.Uevent.ofEntries_of_lacks`: the first missing key is the one that is reported.
* `Hotplug.Uevent.decodeInPlace?_eq`: the decoder by place looks only at places that there are.
* `Hotplug.Uevent.decode_exactly`
-/

namespace Hotplug

/-! ### Words -/

theorem littleEndian_lt (bytes : Bytes) : littleEndian bytes < 256 ^ bytes.length := by
  induction bytes with
  | nil => exact Nat.one_pos
  | cons b rest ih =>
    have hb := b.toNat_lt
    rw [littleEndian, List.length_cons, Nat.pow_succ]
    omega

theorem wordBytes_littleEndian {word : Bytes} (h : word.length = 4) :
    wordBytes (littleEndian word) = word := by
  obtain ⟨a, b, c, d, rfl⟩ : ∃ a b c d, word = [a, b, c, d] := by
    match word, h with
    | [a, b, c, d], _ => exact ⟨a, b, c, d, rfl⟩
  have ha := a.toNat_lt
  have hb := b.toNat_lt
  have hc := c.toNat_lt
  have hd := d.toNat_lt
  simp only [wordBytes, littleEndian, List.cons.injEq, ← UInt8.toNat_inj, UInt8.toNat_ofNat', and_true]
  omega

/-- Four bytes are those of a word. -/
theorem exists_wordBytes {word : Bytes} (h : word.length = 4) :
    ∃ n : UInt32, word = wordBytes n.toNat := by
  have hlt : littleEndian word < 2 ^ 32 := by simpa [h] using littleEndian_lt word
  exact ⟨.ofNat (littleEndian word), by rw [UInt32.toNat_ofNat_of_lt' hlt, wordBytes_littleEndian h]⟩

theorem littleEndian_toNat (n : UInt32) : littleEndian (wordBytes n.toNat) = n.toNat :=
  littleEndian_wordBytes n.toNat_lt

theorem bigEndian_toNat (n : UInt32) : bigEndian (wordBytes n.toNat).reverse = n.toNat := by
  rw [bigEndian, List.reverse_reverse, littleEndian_toNat]

namespace Uevent

/-! ### Binary headers -/

/-- A binary header: the mark, the magic number with its most significant byte first, the size of the
header, and the place and the length of the properties. -/
def header (number size offset length : UInt32) : Bytes :=
  mark ++ (wordBytes number.toNat).reverse ++ wordBytes size.toNat ++ wordBytes offset.toNat ++
    wordBytes length.toNat

section Header

variable (number size offset length : UInt32) (rest : Bytes)

theorem length_header : (header number size offset length).length = headerSize := by
  simp only [header, List.length_append, List.length_reverse, length_wordBytes, length_mark]
  rfl

theorem isTagged_header : isTagged (header number size offset length ++ rest) = true := by
  simp only [isTagged, List.isPrefixOf_iff_prefix, header, List.append_assoc]
  exact List.prefix_append _ _

theorem wordAt_header :
    wordAt (header number size offset length ++ rest) 8 = (wordBytes number.toNat).reverse ∧
    wordAt (header number size offset length ++ rest) 16 = wordBytes offset.toNat ∧
    wordAt (header number size offset length ++ rest) 20 = wordBytes length.toNat := by
  refine ⟨?_, ?_, ?_⟩
  · simp only [header, List.append_assoc]
    rw [← List.append_assoc mark]
    exact wordAt_append length_mark rfl _
  · rw [header, List.append_assoc _ (wordBytes length.toNat)]
    exact wordAt_append (by simp [length_mark, length_wordBytes]) rfl _
  · exact wordAt_append (by simp [length_mark, length_wordBytes]) rfl _

theorem take_drop_header (filler window trailing : Bytes) :
    ((header number size offset length ++ (filler ++ (window ++ trailing))).drop
      (headerSize + filler.length)).take window.length = window := by
  rw [← List.append_assoc, List.drop_left' (by rw [List.length_append, length_header]), List.take_left]

/-- What the fields of a header make of the message behind it. -/
theorem taggedProperties_header {message : Bytes}
    (hmessage : message = header number size offset length ++ rest) :
    taggedProperties message =
      if number.toNat ≠ magic then .error (.badMagic number.toNat)
      else if headerSize ≤ offset.toNat ∧ offset.toNat + length.toNat ≤ message.length then
        .ok ((message.drop offset.toNat).take length.toNat)
      else .error (.propertiesOutOfBounds offset.toNat length.toNat message.length) := by
  obtain ⟨hnumber, hoffset, hlength⟩ := wordAt_header number size offset length rest
  have hlong : ¬message.length < headerSize := by
    rw [hmessage, List.length_append, length_header]
    omega
  rw [← hmessage] at hnumber hoffset hlength
  rw [taggedProperties, if_neg hlong, hnumber, hoffset, hlength, bigEndian_toNat, littleEndian_toNat,
    littleEndian_toNat]

end Header

/-- What starts with the mark and is long enough starts with a header. -/
theorem exists_header {message : Bytes} (hmark : mark <+: message)
    (hlong : headerSize ≤ message.length) :
    ∃ number size offset length rest, message = header number size offset length ++ rest := by
  obtain ⟨body, rfl⟩ := hmark
  have hbody : 16 ≤ body.length := by
    rw [List.length_append, length_mark, headerSize] at hlong
    omega
  have hword (place : Nat) (hplace : place + 4 ≤ 16) : (wordAt body place).length = 4 := by
    rw [wordAt, List.length_take, List.length_drop]
    omega
  have hreversed : (wordAt body 0).reverse.length = 4 := by simp [hword]
  obtain ⟨number, hnumber⟩ := exists_wordBytes hreversed
  obtain ⟨size, hsize⟩ := exists_wordBytes (hword 4 (by decide))
  obtain ⟨offset, hoffset⟩ := exists_wordBytes (hword 8 (by decide))
  obtain ⟨length, hlength⟩ := exists_wordBytes (hword 12 (by decide))
  refine ⟨number, size, offset, length, body.drop 16, ?_⟩
  rw [header, ← hnumber, ← hsize, ← hoffset, ← hlength, List.reverse_reverse]
  have hcut (place : Nat) : body.drop place = wordAt body place ++ body.drop (place + 4) := by
    rw [wordAt, ← List.drop_drop, List.take_append_drop]
  simp only [List.append_assoc]
  rw [← hcut 12, ← hcut 8, ← hcut 4, ← hcut 0, List.drop_zero]

/-! ### Where the properties are -/

/-- The window of the properties in a message, or the reason why there is none. -/
inductive Frames (message : Bytes) : Except Malformed Bytes → Prop
  /-- The header is cut off. -/
  | truncated (hmark : mark <+: message) (hshort : message.length < 24) :
    Frames message (.error (.truncated message.length))
  /-- The header has another magic number. -/
  | badMagic {number size offset length : UInt32} {rest : Bytes}
    (hmessage : message = header number size offset length ++ rest) (hnumber : number ≠ 0xfeedcafe) :
    Frames message (.error (.badMagic number.toNat))
  /-- The header places the properties inside itself or beyond the end. -/
  | outOfBounds {size offset length : UInt32} {rest : Bytes}
    (hmessage : message = header 0xfeedcafe size offset length ++ rest)
    (hout : ¬(24 ≤ offset.toNat ∧ offset.toNat + length.toNat ≤ message.length)) :
    Frames message (.error (.propertiesOutOfBounds offset.toNat length.toNat message.length))
  /-- The header places the properties inside the message. -/
  | tagged {size offset length : UInt32} {rest : Bytes}
    (hmessage : message = header 0xfeedcafe size offset length ++ rest)
    (hinside : 24 ≤ offset.toNat ∧ offset.toNat + length.toNat ≤ message.length) :
    Frames message (.ok ((message.drop offset.toNat).take length.toNat))
  /-- There is no zero byte, or no `@` before the first one. -/
  | malformedHeader (hmark : ¬mark <+: message)
    (hheader : ∀ before window, message = before ++ 0 :: window → 0 ∉ before → '@'.toUInt8 ∉ before) :
    Frames message (.error .malformedHeader)
  /-- An `@` stands before the first zero byte, and the properties behind that one. -/
  | plain {before window : Bytes} (hmessage : message = before ++ 0 :: window)
    (hunbroken : 0 ∉ before) (hmarked : '@'.toUInt8 ∈ before) : Frames message (.ok window)

section Frames

variable {message : Bytes}

theorem frames_taggedProperties (hmark : mark <+: message) :
    Frames message (taggedProperties message) := by
  by_cases hshort : message.length < headerSize
  · rw [taggedProperties, if_pos hshort]
    exact .truncated hmark hshort
  · obtain ⟨number, size, offset, length, rest, hmessage⟩ := exists_header hmark (Nat.not_lt.1 hshort)
    rw [taggedProperties_header number size offset length rest hmessage]
    split
    · next hnumber => exact .badMagic hmessage fun heq => hnumber (heq ▸ rfl)
    · next hnumber =>
      obtain rfl : number = 0xfeedcafe := UInt32.toNat_inj.1 (Decidable.of_not_not hnumber)
      split
      · next hinside => exact .tagged hmessage hinside
      · next hout => exact .outOfBounds hmessage hout

theorem plainProperties_of_not_mem (h : 0 ∉ message) :
    plainProperties message = .error .malformedHeader := by
  have hdrop : message.dropWhile (· != 0) = [] := by
    rw [List.dropWhile_eq_nil_iff]
    intro b hb
    simpa using ne_of_mem_of_not_mem hb h
  rw [plainProperties, hdrop]

theorem plainProperties_append {before : Bytes} (h : 0 ∉ before) (window : Bytes) :
    plainProperties (before ++ 0 :: window) =
      if '@'.toUInt8 ∈ before then .ok window else .error .malformedHeader := by
  rw [plainProperties, dropWhile_append_zero h, takeWhile_append_zero h]
  simp only [List.contains_iff_mem]

theorem frames_plainProperties (hmark : ¬mark <+: message) :
    Frames message (plainProperties message) := by
  by_cases hzero : 0 ∈ message
  · obtain ⟨before, window, hmessage, hbefore⟩ := List.eq_append_cons_of_mem hzero
    rw [hmessage, plainProperties_append hbefore, ← hmessage]
    split
    · next hmarked => exact .plain hmessage hbefore hmarked
    · next hmarked =>
      refine .malformedHeader hmark fun other rest heq hother => ?_
      -- What stands before the first zero byte is determined.
      have hsame : other = before := by
        rw [← takeWhile_append_zero hother rest, ← heq, hmessage, takeWhile_append_zero hbefore]
      rwa [hsame]
  · rw [plainProperties_of_not_mem hzero]
    refine .malformedHeader hmark fun before window heq => ?_
    exact absurd (heq ▸ by simp) hzero

/-- Every message has its properties in one window, or lacks one for a reason. -/
theorem frames_properties (message : Bytes) : Frames message (properties message) := by
  rw [properties, isTagged]
  split
  · next hmark => exact frames_taggedProperties (List.isPrefixOf_iff_prefix.1 hmark)
  · next hmark => exact frames_plainProperties (mt List.isPrefixOf_iff_prefix.2 hmark)

/-- There is no more than one reason, and no more than one window. -/
theorem properties_of_frames {found : Except Malformed Bytes} (h : Frames message found) :
    properties message = found := by
  cases h with
  | truncated hmark hshort =>
    have hshort' : message.length < headerSize := hshort
    rw [properties, isTagged, if_pos (List.isPrefixOf_iff_prefix.2 hmark), taggedProperties,
      if_pos hshort']
  | @badMagic number _ _ _ _ hmessage hnumber =>
    have hother : number.toNat ≠ magic := fun heq => hnumber (UInt32.toNat_inj.1 heq)
    rw [properties, if_pos (hmessage ▸ isTagged_header ..), taggedProperties_header _ _ _ _ _ hmessage,
      if_pos hother]
  | outOfBounds hmessage hout =>
    rw [properties, if_pos (hmessage ▸ isTagged_header ..), taggedProperties_header _ _ _ _ _ hmessage,
      if_neg (by decide)]
    exact if_neg hout
  | tagged hmessage hinside =>
    rw [properties, if_pos (hmessage ▸ isTagged_header ..), taggedProperties_header _ _ _ _ _ hmessage,
      if_neg (by decide)]
    exact if_pos hinside
  | malformedHeader hmark hheader =>
    rw [properties, isTagged, if_neg (mt List.isPrefixOf_iff_prefix.1 hmark)]
    by_cases hzero : 0 ∈ message
    · obtain ⟨before, window, hmessage, hbefore⟩ := List.eq_append_cons_of_mem hzero
      have hunmarked := hheader before window hmessage hbefore
      rw [hmessage, plainProperties_append hbefore, if_neg hunmarked]
    · exact plainProperties_of_not_mem hzero
  | plain hmessage hunbroken hmarked =>
    rw [hmessage]
    exact properties_plain hunbroken hmarked _

end Frames

/-! ### What is missing -/

section Entries

variable {entries : List Bytes} {key : String}

/-- The key is the first of those that every event has that none of the entries assigns. -/
def Lacks (entries : List Bytes) (key : String) : Prop :=
  ∃ before after, ["ACTION", "DEVPATH", "SUBSYSTEM"] = before ++ key :: after ∧
    (∀ other ∈ before, ∃ value, assignment other value ∈ entries) ∧
    ∀ value, assignment key value ∉ entries

/-- Among any entries, some assignment of a key is the last one, or there is none. -/
theorem exists_assigns (entries : List Bytes) (key : String) :
    ∃ value?, Assigns entries key value? := by
  induction entries with
  | nil => exact ⟨none, fun _ => List.not_mem_nil⟩
  | cons entry rest ih =>
    obtain ⟨value?, hrest⟩ := ih
    cases value? with
    | some value =>
      obtain ⟨before, after, rfl, hafter⟩ := hrest
      exact ⟨some value, entry :: before, after, rfl, hafter⟩
    | none =>
      by_cases hentry : ∃ value, entry = assignment key value
      · obtain ⟨value, rfl⟩ := hentry
        exact ⟨some value, [], rest, rfl, hrest⟩
      · refine ⟨none, fun other hmem => ?_⟩
        rcases List.mem_cons.1 hmem with heq | hmem
        · exact hentry ⟨other, heq.symm⟩
        · exact hrest other hmem

theorem required_of_assigned (hkey : '=' ∉ key.toList) (h : ∃ value, assignment key value ∈ entries) :
    ∃ value, required key (entries.filterMap entry?) = .ok value := by
  obtain ⟨value?, hassigns⟩ := exists_assigns entries key
  obtain ⟨value, hmem⟩ := h
  cases value? with
  | none => exact absurd hmem (hassigns value)
  | some last => exact ⟨last, by rw [required, lastValue?_of_assigns hkey hassigns]⟩

theorem required_of_not_assigned (hkey : '=' ∉ key.toList)
    (h : ∀ value, assignment key value ∉ entries) :
    required key (entries.filterMap entry?) = .error (.missingField key) := by
  have hassigns : Assigns entries key none := h
  rw [required, lastValue?_of_assigns hkey hassigns]

/-- The first missing key is the one that is reported. -/
theorem ofEntries_of_lacks (h : Lacks entries key) :
    ofEntries (entries.filterMap entry?) = .error (.missingField key) := by
  obtain ⟨before, after, hkeys, hbefore, hmissing⟩ := h
  have hhas (other : String) (hother : '=' ∉ other.toList) (hmem : other ∈ before) :=
    required_of_assigned hother (hbefore other hmem)
  rcases before with _ | ⟨first, _ | ⟨second, _ | ⟨third, before⟩⟩⟩
  · obtain ⟨rfl, -⟩ := List.cons.inj hkeys
    rw [ofEntries, required_of_not_assigned (by decide) hmissing]
    rfl
  · simp only [List.cons_append, List.nil_append, List.cons.injEq] at hkeys
    obtain ⟨rfl, rfl, -⟩ := hkeys
    obtain ⟨action, haction⟩ := hhas "ACTION" (by decide) (by simp)
    rw [ofEntries, haction, required_of_not_assigned (by decide) hmissing]
    rfl
  · simp only [List.cons_append, List.nil_append, List.cons.injEq] at hkeys
    obtain ⟨rfl, rfl, rfl, -⟩ := hkeys
    obtain ⟨action, haction⟩ := hhas "ACTION" (by decide) (by simp)
    obtain ⟨devpath, hdevpath⟩ := hhas "DEVPATH" (by decide) (by simp)
    rw [ofEntries, haction, hdevpath, required_of_not_assigned (by decide) hmissing]
    rfl
  · simp at hkeys

/-- Entries describe an event, or lack a key that every event has. -/
theorem describes_or_lacks (hseparate : ∀ entry ∈ entries, 0 ∉ entry) :
    (∃ action devpath subsystem devname, Describes entries action devpath subsystem devname) ∨
      ∃ key, Lacks entries key := by
  obtain ⟨action?, haction⟩ := exists_assigns entries "ACTION"
  obtain ⟨devpath?, hdevpath⟩ := exists_assigns entries "DEVPATH"
  obtain ⟨subsystem?, hsubsystem⟩ := exists_assigns entries "SUBSYSTEM"
  obtain ⟨devname, hdevname⟩ := exists_assigns entries "DEVNAME"
  have hassigned (key value : String) (h : Assigns entries key (some value)) :
      ∃ value, assignment key value ∈ entries := by
    obtain ⟨before, after, rfl, -⟩ := h
    exact ⟨value, by simp⟩
  cases action? with
  | none => exact .inr ⟨"ACTION", [], _, rfl, by simp, haction⟩
  | some action =>
    cases devpath? with
    | none =>
      refine .inr ⟨"DEVPATH", ["ACTION"], _, rfl, ?_, hdevpath⟩
      simpa using hassigned _ _ haction
    | some devpath =>
      cases subsystem? with
      | none =>
        refine .inr ⟨"SUBSYSTEM", ["ACTION", "DEVPATH"], _, rfl, ?_, hsubsystem⟩
        simpa using ⟨hassigned _ _ haction, hassigned _ _ hdevpath⟩
      | some subsystem =>
        exact .inl ⟨action, devpath, subsystem, devname, hseparate, haction, hdevpath, hsubsystem,
          hdevname⟩

end Entries

/-! ### The verdict -/

theorem separate_splitOn (window : Bytes) : ∀ entry ∈ window.splitOn 0, 0 ∉ entry := by
  induction window with
  | nil => simp
  | cons b rest ih =>
    obtain ⟨piece, pieces, hpieces⟩ := List.exists_cons_of_ne_nil (List.splitOn_ne_nil 0 rest)
    rw [List.splitOn_cons_eq_if_modifyHead]
    split
    · exact List.forall_mem_cons.2 ⟨List.not_mem_nil, ih⟩
    · next hb =>
      rw [hpieces] at ih ⊢
      obtain ⟨hpiece, hrest⟩ := List.forall_mem_cons.1 ih
      refine List.forall_mem_cons.2 ⟨fun hmem => ?_, hrest⟩
      rcases List.mem_cons.1 hmem with heq | hmem
      · exact hb (by simp [← heq])
      · exact hpiece hmem

/-- Every window is a block of entries. -/
theorem exists_block (window : Bytes) :
    ∃ entries, (∀ entry ∈ entries, 0 ∉ entry) ∧ window = block entries :=
  ⟨window.splitOn 0, separate_splitOn window, (List.intercalate_splitOn 0).symm⟩

/-- The verdict on a message: it has no window of properties, its properties lack a key, or they
describe an event. -/
inductive Judges (message : Bytes) : Except Malformed Uevent → Prop
  | unframed {reason : Malformed} (hframes : Frames message (.error reason)) :
    Judges message (.error reason)
  | lacking {entries : List Bytes} {key : String} (hframes : Frames message (.ok (block entries)))
    (hseparate : ∀ entry ∈ entries, 0 ∉ entry) (hlacks : Lacks entries key) :
    Judges message (.error (.missingField key))
  | complete {entries : List Bytes} {action devpath subsystem : String} {devname : Option String}
    (hframes : Frames message (.ok (block entries)))
    (hdescribes : Describes entries action devpath subsystem devname) :
    Judges message (.ok ⟨.ofName action, devpath, subsystem, devname⟩)

theorem decode_of_frames {message : Bytes} {found : Except Malformed Bytes}
    (h : Frames message found) : decode message = found >>= fun window => ofEntries (entries window) := by
  rw [decode, properties_of_frames h]

theorem entries_block_of_lacks {listed : List Bytes} {key : String}
    (hseparate : ∀ entry ∈ listed, 0 ∉ entry) (hlacks : Lacks listed key) :
    ofEntries (entries (block listed)) = .error (.missingField key) := by
  by_cases hne : listed = []
  · subst hne
    have hnone : entries (block []) = ([] : List Bytes).filterMap entry? := by decide
    rw [hnone, ofEntries_of_lacks hlacks]
  · rw [entries_block hseparate hne, ofEntries_of_lacks hlacks]

theorem decode_of_judges {message : Bytes} {verdict : Except Malformed Uevent}
    (h : Judges message verdict) : decode message = verdict := by
  cases h with
  | unframed hframes => rw [decode_of_frames hframes]; rfl
  | lacking hframes hseparate hlacks =>
    rw [decode_of_frames hframes]
    exact entries_block_of_lacks hseparate hlacks
  | complete hframes hdescribes =>
    rw [decode_of_frames hframes]
    exact ofEntries_of_describes hdescribes

theorem exists_judges (message : Bytes) : ∃ verdict, Judges message verdict := by
  have hframes := frames_properties message
  cases hfound : properties message with
  | error reason => exact ⟨_, .unframed (hfound ▸ hframes)⟩
  | ok window =>
    obtain ⟨entries, hseparate, rfl⟩ := exists_block window
    rw [hfound] at hframes
    rcases describes_or_lacks hseparate with ⟨_, _, _, _, hdescribes⟩ | ⟨key, hlacks⟩
    · exact ⟨_, .complete hframes hdescribes⟩
    · exact ⟨_, .lacking hframes hseparate hlacks⟩

/-! ### The decoder by place -/

/-- So many bytes of a message from a place on, if they all lie in it. -/
def bytesAt? (message : Bytes) (place count : Nat) : Option Bytes :=
  if place + count ≤ message.length then some ((message.drop place).take count) else none

/-- The sum of two numbers, if it fits into a word of 64 bits. -/
def wordSum? (a b : Nat) : Option Nat :=
  if a + b < 2 ^ 64 then some (a + b) else none

/-- The properties of a message with a binary header, by place. There is no result if a place outside
the message is looked at, or if a sum does not fit. -/
def taggedInPlace? (message : Bytes) : Option (Except Malformed Bytes) :=
  if message.length < headerSize then return .error (.truncated message.length)
  else do
    let found := bigEndian (← bytesAt? message 8 4)
    if found ≠ magic then return .error (.badMagic found)
    let offset := littleEndian (← bytesAt? message 16 4)
    let length := littleEndian (← bytesAt? message 20 4)
    let stop ← wordSum? offset length
    if headerSize ≤ offset ∧ stop ≤ message.length then return .ok (← bytesAt? message offset length)
    else return .error (.propertiesOutOfBounds offset length message.length)

/-- The properties of a message from the kernel, by place. -/
def plainInPlace? (message : Bytes) : Option (Except Malformed Bytes) :=
  match message.idxOf? 0 with
  | none => return .error .malformedHeader
  | some stop => do
    let header ← bytesAt? message 0 stop
    if header.contains '@'.toUInt8 then
      return .ok (← bytesAt? message (stop + 1) (message.length - (stop + 1)))
    else return .error .malformedHeader

/-- The event that a message announces, by place. -/
def decodeInPlace? (message : Bytes) : Option (Except Malformed Uevent) := do
  let window ← if isTagged message then taggedInPlace? message else plainInPlace? message
  return window >>= fun window => ofEntries (entries window)

theorem bytesAt?_of_le {message : Bytes} {place count : Nat} (h : place + count ≤ message.length) :
    bytesAt? message place count = some ((message.drop place).take count) :=
  if_pos h

theorem wordSum?_of_lt {a b : Nat} (ha : a < 2 ^ 32) (hb : b < 2 ^ 32) :
    wordSum? a b = some (a + b) :=
  if_pos (by omega)

theorem littleEndian_wordAt_lt (message : Bytes) (place : Nat) :
    littleEndian (wordAt message place) < 2 ^ 32 := by
  have hlength : (wordAt message place).length ≤ 4 := List.length_take_le 4 _
  calc littleEndian (wordAt message place)
    _ < 256 ^ (wordAt message place).length := littleEndian_lt _
    _ ≤ 256 ^ 4 := Nat.pow_le_pow_right (by decide) hlength

theorem bytesAt?_word {message : Bytes} {place : Nat} (h : place + 4 ≤ message.length) :
    bytesAt? message place 4 = some (wordAt message place) :=
  if_pos h

theorem taggedInPlace?_eq (message : Bytes) :
    taggedInPlace? message = some (taggedProperties message) := by
  rw [taggedInPlace?, taggedProperties]
  by_cases hshort : message.length < headerSize
  · rw [if_pos hshort, if_pos hshort]
    rfl
  have hsize : 24 ≤ message.length := Nat.not_lt.1 hshort
  have hsum := wordSum?_of_lt (littleEndian_wordAt_lt message 16) (littleEndian_wordAt_lt message 20)
  rw [if_neg hshort, if_neg hshort, bytesAt?_word (by omega), bytesAt?_word (by omega),
    bytesAt?_word (by omega)]
  simp only [Option.bind_eq_bind, Option.bind_some, hsum]
  by_cases hmagic : bigEndian (wordAt message 8) ≠ magic
  · rw [if_pos hmagic, if_pos hmagic]
    rfl
  rw [if_neg hmagic, if_neg hmagic]
  by_cases hinside : headerSize ≤ littleEndian (wordAt message 16) ∧
      littleEndian (wordAt message 16) + littleEndian (wordAt message 20) ≤ message.length
  · rw [if_pos hinside, if_pos hinside, bytesAt?_of_le hinside.2]
    rfl
  · rw [if_neg hinside, if_neg hinside]
    rfl

theorem idxOf?_append_zero {before : Bytes} (h : 0 ∉ before) (window : Bytes) :
    (before ++ 0 :: window).idxOf? 0 = some before.length := by
  refine List.idxOf?_eq_some_iff.2 ⟨by simp, by simp, fun place hplace heq => h ?_⟩
  rw [List.getElem_append_left hplace] at heq
  exact heq ▸ List.getElem_mem hplace

theorem plainInPlace?_eq (message : Bytes) :
    plainInPlace? message = some (plainProperties message) := by
  rw [plainInPlace?]
  by_cases hzero : 0 ∈ message
  · obtain ⟨before, window, rfl, hbefore⟩ := List.eq_append_cons_of_mem hzero
    -- The zero byte itself is a place of the message, so what follows it is too.
    have hsize : (before ++ 0 :: window).length = before.length + 1 + window.length := by
      rw [List.length_append, List.length_cons]
      omega
    have hbehind : (before ++ 0 :: window).drop (before.length + 1) = window := by
      rw [← List.drop_drop, List.drop_left, List.drop_succ_cons, List.drop_zero]
    rw [idxOf?_append_zero hbefore, plainProperties_append hbefore]
    dsimp only
    rw [bytesAt?_of_le (by omega), bytesAt?_of_le (by omega), List.drop_zero, List.take_left, hbehind,
      hsize, Nat.add_sub_cancel_left, List.take_length]
    simp only [Option.bind_eq_bind, Option.bind_some, List.contains_iff_mem]
    split <;> rfl
  · rw [List.idxOf?_eq_none_iff.2 hzero, plainProperties_of_not_mem hzero]
    rfl

/-- The decoder by place looks only at places that there are, adds only numbers whose sum fits, and says
what the decoder says. -/
theorem decodeInPlace?_eq (message : Bytes) : decodeInPlace? message = some (decode message) := by
  rw [decodeInPlace?, decode, properties]
  split
  · rw [taggedInPlace?_eq]
    rfl
  · rw [plainInPlace?_eq]
    rfl

/-! ### Every message -/

/-- A header places the properties inside the message: so many bytes from a place on. -/
def Places (message : Bytes) (offset length : UInt32) : Prop :=
  (∃ size rest, message = header 0xfeedcafe size offset length ++ rest) ∧
    24 ≤ offset.toNat ∧ offset.toNat + length.toNat ≤ message.length

theorem decode_of_places {message : Bytes} {offset length : UInt32} (h : Places message offset length) :
    decode message = ofEntries (entries ((message.drop offset.toNat).take length.toNat)) := by
  obtain ⟨⟨size, rest, hmessage⟩, hinside⟩ := h
  exact decode_of_frames (.tagged hmessage hinside)

/-- Every message has one verdict, and decoding comes to it. No place outside the message is looked at
on the way. Where a header places the properties inside the message, nothing but those bytes counts. -/
theorem decode_exactly :
    (∀ message verdict, decode message = verdict ↔ Judges message verdict) ∧
    (∀ message, decodeInPlace? message = some (decode message)) ∧
    ∀ message other offset length offset' length', Places message offset length →
      Places other offset' length' →
      (message.drop offset.toNat).take length.toNat = (other.drop offset'.toNat).take length'.toNat →
      decode message = decode other := by
  refine ⟨fun message verdict => ⟨?_, decode_of_judges⟩, decodeInPlace?_eq, ?_⟩
  · rintro rfl
    obtain ⟨verdict, hjudges⟩ := exists_judges message
    rwa [decode_of_judges hjudges]
  · intro message other offset length offset' length' hmessage hother hwindow
    rw [decode_of_places hmessage, decode_of_places hother, hwindow]

/-- Properties without a path. -/
def pathless : List Bytes :=
  [assignment "ACTION" "add", assignment "SUBSYSTEM" "tty"]

theorem lacks_pathless : Lacks pathless "DEVPATH" := by
  refine ⟨["ACTION"], ["SUBSYSTEM"], rfl, ?_, not_assigned_of_prefix ?_⟩
  · simpa using ⟨"add", List.mem_cons_self⟩
  · simp only [pathless, assignment, Text.utf8_eq]
    decide

theorem length_block_pathless : (block pathless).length = 24 := by
  simp only [block, pathless, assignment, Text.utf8_eq]
  decide

/-- Two messages with the same properties at other places, and one whose header places them far beyond
the end, where the sum of place and length does not fit into 32 bits. -/
theorem decode_exactly_pathless :
    let message := header 0xfeedcafe 40 25 24 ++ ([7] ++ (block pathless ++ []))
    let other := header 0xfeedcafe 0 24 24 ++ ([] ++ (block pathless ++ ['@'.toUInt8, 0]))
    let far := header 0xfeedcafe 40 0xffffffff 0xffffffff ++ block pathless
    Places message 25 24 ∧ Places other 24 24 ∧ decode message = decode other ∧
      decode message = .error (.missingField "DEVPATH") ∧
      decode far = .error (.propertiesOutOfBounds 0xffffffff 0xffffffff 48) ∧
      decodeInPlace? far = some (decode far) := by
  intro message other far
  obtain ⟨hverdict, hplace, hwindow⟩ := decode_exactly
  have hmessage : Places message 25 24 := by
    refine ⟨⟨40, _, rfl⟩, by decide, ?_⟩
    simp only [message, List.length_append, length_header, length_block_pathless]
    decide
  have hother : Places other 24 24 := by
    refine ⟨⟨0, _, rfl⟩, by decide, ?_⟩
    simp only [other, List.length_append, length_header, length_block_pathless]
    decide
  have hcut : (message.drop 25).take 24 = block pathless := by
    have h := take_drop_header 0xfeedcafe 40 25 24 [7] (block pathless) []
    rw [length_block_pathless] at h
    exact h
  have hcut' : (other.drop 24).take 24 = block pathless := by
    have h := take_drop_header 0xfeedcafe 0 24 24 [] (block pathless) ['@'.toUInt8, 0]
    rw [length_block_pathless] at h
    exact h
  have hfar : far.length = 48 := by
    rw [List.length_append, length_header, length_block_pathless]
    rfl
  refine ⟨hmessage, hother, hwindow _ _ _ _ _ _ hmessage hother ?_, (hverdict _ _).2 ?_,
    (hverdict _ _).2 ?_, hplace far⟩
  · exact hcut.trans hcut'.symm
  · refine .lacking (hcut ▸ .tagged rfl hmessage.2) ?_ lacks_pathless
    simp only [pathless, assignment, Text.utf8_eq]
    decide
  · rw [← hfar]
    refine .unframed (.outOfBounds rfl ?_)
    rw [hfar]
    decide

end Uevent

end Hotplug
