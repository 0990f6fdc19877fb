import Mathlib.Algebra.Group.Nat.Defs
import Hotplug.Uevent.Message
/-!
# Messages are read as they were written

A message carries a block of properties behind a header, in one of two forms. Whatever else is in the
block and in the header, the event that the block describes is the one that is read, and no message
has both forms.

## Main definitions

* `Hotplug.Uevent.assignment`: the entry that gives a key a value.
* `Hotplug.Uevent.Assigns`, `Hotplug.Uevent.Describes`: what a list of entries says.
* `Hotplug.Uevent.plain`, `Hotplug.Uevent.tagged`: the two forms of a message.

## Main statements

* `Hotplug.Uevent.lastValue?_of_assigns`: the last assignment counts, among entries of any kind.
* `Hotplug.Uevent.properties_plain`, `Hotplug.Uevent.properties_tagged`: either form gives its block
  back.
* `Hotplug.Uevent.decode_of_describes`
-/

namespace Hotplug

namespace Text

/-- Reading the bytes of an array one after another. -/
theorem toList_loop (bytes : ByteArray) (place : Nat) (read : Bytes) :
    ByteArray.toList.loop bytes place read = read.reverse ++ bytes.data.toList.drop place := by
  induction place, read using ByteArray.toList.loop.induct bytes with
  | case1 place read hlt ih =>
    have hplace : place < bytes.data.toList.length := by simpa using hlt
    have hbyte : bytes.get! place = bytes.data.toList[place] := by
      simp only [ByteArray.get!, Array.getElem_toList]
      exact getElem!_pos bytes.data place (by simpa using hlt)
    rw [ByteArray.toList.loop, if_pos hlt, ih, List.drop_eq_getElem_cons hplace, hbyte]
    simp
  | case2 place read hge =>
    have hend : bytes.data.toList.length ≤ place := by simpa using hge
    rw [ByteArray.toList.loop, if_neg hge, List.drop_eq_nil_of_le hend, List.append_nil]

theorem utf8_eq (text : String) : utf8 text = text.toByteArray.data.toList := by
  rw [utf8, String.toUTF8_eq_toByteArray, ByteArray.toList, toList_loop]
  rfl

theorem utf8_append (a b : String) : utf8 (a ++ b) = utf8 a ++ utf8 b := by
  simp [utf8_eq]

theorem ofUtf8?_eq_some_iff {bytes : Bytes} {text : String} :
    ofUtf8? bytes = some text ↔ bytes = utf8 text := by
  rw [ofUtf8?, String.fromUTF8?, utf8_eq]
  constructor
  · intro h
    split at h
    · cases h
      simp [String.fromUTF8]
    · cases h
  · rintro rfl
    simp only [Array.toArray_toList]
    rw [dif_pos text.isValidUTF8]
    rfl

theorem cutAt?_cons_self (mark : Char) (rest : List Char) :
    cutAt? mark (mark :: rest) = some ([], rest) := by
  simp [cutAt?]

theorem cutAt?_cons_of_ne {mark c : Char} (hc : c ≠ mark) (rest : List Char) :
    cutAt? mark (c :: rest) = (cutAt? mark rest).map fun cut => (c :: cut.1, cut.2) := by
  have hdrop : (c :: rest).dropWhile (· ≠ mark) = rest.dropWhile (· ≠ mark) :=
    List.dropWhile_cons_of_pos (by simpa using hc)
  have htake : (c :: rest).takeWhile (· ≠ mark) = c :: rest.takeWhile (· ≠ mark) :=
    List.takeWhile_cons_of_pos (by simpa using hc)
  rw [cutAt?, cutAt?, hdrop, htake]
  split <;> rfl

theorem cutAt?_append {mark : Char} {before : List Char} (h : mark ∉ before) (after : List Char) :
    cutAt? mark (before ++ mark :: after) = some (before, after) := by
  induction before with
  | nil => exact cutAt?_cons_self mark after
  | cons c rest ih =>
    have hc : c ≠ mark := fun heq => h (heq ▸ List.mem_cons_self)
    have hrest : mark ∉ rest := fun hmem => h (List.mem_cons_of_mem _ hmem)
    rw [List.cons_append, cutAt?_cons_of_ne hc, ih hrest]
    rfl

theorem eq_append_of_cutAt? {mark : Char} {text before after : List Char}
    (h : cutAt? mark text = some (before, after)) : text = before ++ mark :: after := by
  induction text generalizing before with
  | nil => cases h
  | cons c rest ih =>
    by_cases hc : c = mark
    · subst hc
      rw [cutAt?_cons_self] at h
      cases h
      rfl
    · rw [cutAt?_cons_of_ne hc] at h
      obtain ⟨cut, hcut, heq⟩ := Option.map_eq_some_iff.1 h
      cases heq
      rw [List.cons_append, ← ih hcut]

end Text

/-! ### Words -/

theorem length_wordBytes (n : Nat) : (wordBytes n).length = 4 :=
  rfl

theorem littleEndian_wordBytes {n : Nat} (h : n < 2 ^ 32) : littleEndian (wordBytes n) = n := by
  simp only [wordBytes, littleEndian, UInt8.toNat_ofNat']
  omega

namespace Uevent

/-! ### Entries -/

/-- The entry that gives a key a value. -/
def assignment (key value : String) : Bytes :=
  Text.utf8 (key ++ "=" ++ value)

theorem prefix_assignment (key value : String) : Text.utf8 (key ++ "=") <+: assignment key value := by
  rw [assignment, Text.utf8_append (key ++ "=")]
  exact List.prefix_append _ _

theorem entry?_assignment {key : String} (hkey : '=' ∉ key.toList) (value : String) :
    entry? (assignment key value) = some (key, value) := by
  have htext : Text.ofUtf8? (assignment key value) = some (key ++ "=" ++ value) :=
    Text.ofUtf8?_eq_some_iff.2 rfl
  have hlist : (key ++ "=" ++ value).toList = key.toList ++ '=' :: value.toList := by simp
  unfold entry?
  rw [htext]
  simp [hlist, Text.cutAt?_append hkey]

theorem eq_assignment_of_entry? {bytes : Bytes} {key value : String}
    (h : entry? bytes = some (key, value)) : bytes = assignment key value := by
  obtain ⟨text, htext, h⟩ := Option.bind_eq_some_iff.1 h
  obtain ⟨⟨before, after⟩, hcut, heq⟩ := Option.bind_eq_some_iff.1 h
  cases heq
  rw [Text.ofUtf8?_eq_some_iff.1 htext, assignment]
  congr 1
  apply String.toList_inj.1
  simpa using Text.eq_append_of_cutAt? hcut

/-- The last of some entries that assigns a key a value assigns it this value. Without a value, none
assigns the key anything. -/
def Assigns (entries : List Bytes) (key : String) : Option String → Prop
  | some value => ∃ before after, entries = before ++ assignment key value :: after ∧
    ∀ other, assignment key other ∉ after
  | none => ∀ other, assignment key other ∉ entries

/-- Whatever else is among the entries, be it no text, no assignment, or another key's, does not
count. -/
theorem find?_of_not_assigned {key : String} {entries : List Bytes}
    (h : ∀ other, assignment key other ∉ entries) :
    (entries.filterMap entry?).reverse.find? (·.1 == key) = none := by
  rw [List.find?_eq_none]
  rintro ⟨found, value⟩ hmem hkey
  obtain ⟨bytes, hbytes, hentry⟩ := List.mem_filterMap.1 (List.mem_reverse.1 hmem)
  obtain rfl : found = key := by simpa using hkey
  have hassigned := eq_assignment_of_entry? hentry
  exact h value (hassigned ▸ hbytes)

theorem lastValue?_of_assigns {key : String} (hkey : '=' ∉ key.toList) {entries : List Bytes}
    {value? : Option String} (h : Assigns entries key value?) :
    lastValue? key (entries.filterMap entry?) = value? := by
  cases value? with
  | none => rw [lastValue?, find?_of_not_assigned h, Option.map_none]
  | some value =>
    obtain ⟨before, after, rfl, hafter⟩ := h
    rw [lastValue?, List.filterMap_append, List.filterMap_cons, entry?_assignment hkey]
    simp only [List.reverse_append, List.reverse_cons, List.append_assoc, List.find?_append,
      find?_of_not_assigned hafter]
    simp

/-- What a list of entries says of an event. The name of the device node may be left out. -/
structure Describes (entries : List Bytes) (action devpath subsystem : String)
    (devname : Option String) : Prop where
  /-- Zero bytes only stand between entries. -/
  separate : ∀ entry ∈ entries, 0 ∉ entry
  action : Assigns entries "ACTION" (some action)
  devpath : Assigns entries "DEVPATH" (some devpath)
  subsystem : Assigns entries "SUBSYSTEM" (some subsystem)
  devname : Assigns entries "DEVNAME" devname

/-- The entries as one block, with a zero byte between any two. -/
def block (entries : List Bytes) : Bytes :=
  [0].intercalate entries

theorem entries_block {entries : List Bytes} (hseparate : ∀ entry ∈ entries, 0 ∉ entry)
    (hne : entries ≠ []) : Uevent.entries (block entries) = entries.filterMap entry? := by
  rw [Uevent.entries, block, List.splitOn_intercalate 0 hseparate hne]

theorem ofEntries_of_describes {entries : List Bytes} {action devpath subsystem : String}
    {devname : Option String} (h : Describes entries action devpath subsystem devname) :
    ofEntries (Uevent.entries (block entries)) =
      .ok ⟨.ofName action, devpath, subsystem, devname⟩ := by
  have hne : entries ≠ [] := by
    obtain ⟨before, after, rfl, -⟩ := h.action
    simp
  simp only [entries_block h.separate hne, ofEntries, required,
    lastValue?_of_assigns (by decide) h.action, lastValue?_of_assigns (by decide) h.devpath,
    lastValue?_of_assigns (by decide) h.subsystem, lastValue?_of_assigns (by decide) h.devname]
  rfl

/-! ### The two forms of a message -/

/-- A message of the kernel: a header, a zero byte, and the properties. -/
def plain (header properties : Bytes) : Bytes :=
  header ++ 0 :: properties

/-- A message of the device manager. The header tells its own size, which nobody reads, and where the
properties are; there may be anything before and behind them. -/
def tagged (size : UInt32) (filler properties trailing : Bytes) : Bytes :=
  mark ++ (wordBytes magic).reverse ++ wordBytes size.toNat ++
    wordBytes (headerSize + filler.length) ++ wordBytes properties.length ++
      (filler ++ (properties ++ trailing))

theorem mark_eq : mark = Text.utf8 "libudev" ++ [0] :=
  rfl

theorem unbroken_mark : 0 ∉ Text.utf8 "libudev" ∧ '@'.toUInt8 ∉ Text.utf8 "libudev" := by
  rw [Text.utf8_eq]
  decide

theorem takeWhile_append_zero {header : Bytes} (h : 0 ∉ header) (rest : Bytes) :
    (header ++ 0 :: rest).takeWhile (· != 0) = header := by
  rw [List.takeWhile_append_of_pos fun b hb => ?_]
  · simp
  · simpa using ne_of_mem_of_not_mem hb h

theorem dropWhile_append_zero {header : Bytes} (h : 0 ∉ header) (rest : Bytes) :
    (header ++ 0 :: rest).dropWhile (· != 0) = 0 :: rest := by
  rw [List.dropWhile_append_of_pos fun b hb => ?_]
  · simp
  · simpa using ne_of_mem_of_not_mem hb h

theorem isTagged_plain {header : Bytes} (hunbroken : 0 ∉ header) (hmarked : '@'.toUInt8 ∈ header)
    (properties : Bytes) : isTagged (plain header properties) = false := by
  rw [isTagged, Bool.eq_false_iff]
  intro hstart
  obtain ⟨rest, hrest⟩ := List.isPrefixOf_iff_prefix.1 hstart
  -- What stands before the first zero byte would have to be both names.
  have hheader : Text.utf8 "libudev" = header := by
    rw [← takeWhile_append_zero unbroken_mark.1 rest, ← takeWhile_append_zero hunbroken properties]
    rw [mark_eq, List.append_assoc] at hrest
    exact congrArg _ hrest
  exact unbroken_mark.2 (hheader ▸ hmarked)

theorem properties_plain {header : Bytes} (hunbroken : 0 ∉ header) (hmarked : '@'.toUInt8 ∈ header)
    (properties : Bytes) : Uevent.properties (plain header properties) = .ok properties := by
  rw [Uevent.properties, isTagged_plain hunbroken hmarked, if_neg Bool.false_ne_true,
    plainProperties, plain, dropWhile_append_zero hunbroken, takeWhile_append_zero hunbroken]
  simp [hmarked]

theorem wordAt_append {before word : Bytes} {place : Nat} (hbefore : before.length = place)
    (hword : word.length = 4) (after : Bytes) : wordAt (before ++ word ++ after) place = word := by
  subst hbefore
  rw [wordAt, List.append_assoc, List.drop_left, ← hword, List.take_left]

section Tagged

variable (size : UInt32) (filler properties trailing : Bytes)

theorem isTagged_tagged : isTagged (tagged size filler properties trailing) = true := by
  simp only [isTagged, List.isPrefixOf_iff_prefix, tagged, List.append_assoc]
  exact List.prefix_append _ _

theorem length_mark : mark.length = 8 := by
  rw [mark_eq, Text.utf8_eq]
  decide

theorem length_tagged : (tagged size filler properties trailing).length =
    headerSize + (filler.length + (properties.length + trailing.length)) := by
  simp only [tagged, List.length_append, List.length_reverse, length_wordBytes, length_mark]
  rfl

/-- The fields of the header, each in its place. -/
theorem wordAt_tagged :
    wordAt (tagged size filler properties trailing) 8 = (wordBytes magic).reverse ∧
    wordAt (tagged size filler properties trailing) 16 = wordBytes (headerSize + filler.length) ∧
    wordAt (tagged size filler properties trailing) 20 = wordBytes properties.length := by
  refine ⟨?_, ?_, ?_⟩
  · simp only [tagged, List.append_assoc]
    rw [← List.append_assoc mark]
    exact wordAt_append length_mark rfl _
  · rw [tagged, List.append_assoc _ (wordBytes properties.length)]
    exact wordAt_append (by simp [length_mark, length_wordBytes]) rfl _
  · exact wordAt_append (by simp [length_mark, length_wordBytes]) rfl _

theorem drop_tagged : (tagged size filler properties trailing).drop (headerSize + filler.length) =
    properties ++ trailing := by
  rw [tagged, ← List.append_assoc _ filler]
  refine List.drop_left' ?_
  simp only [List.length_append, List.length_reverse, length_wordBytes, length_mark, headerSize]

theorem properties_tagged (hfiller : headerSize + filler.length < 2 ^ 32)
    (hproperties : properties.length < 2 ^ 32) :
    Uevent.properties (tagged size filler properties trailing) = .ok properties := by
  obtain ⟨hmagic, hoffset, hlength⟩ := wordAt_tagged size filler properties trailing
  have hlong : ¬(tagged size filler properties trailing).length < headerSize := by
    rw [length_tagged]
    omega
  have hinside : headerSize ≤ headerSize + filler.length ∧ headerSize + filler.length +
      properties.length ≤ (tagged size filler properties trailing).length := by
    rw [length_tagged]
    omega
  have hnumber : bigEndian (wordBytes magic).reverse = magic := by
    rw [bigEndian, List.reverse_reverse, littleEndian_wordBytes (by decide)]
  rw [Uevent.properties, isTagged_tagged, if_pos rfl, taggedProperties, if_neg hlong, hmagic, hoffset,
    hlength, hnumber, littleEndian_wordBytes hfiller, littleEndian_wordBytes hproperties]
  simp only [drop_tagged, List.take_left]
  simp [hinside]

end Tagged

/-- No message has both forms. -/
theorem plain_ne_tagged {header : Bytes} (hunbroken : 0 ∉ header) (hmarked : '@'.toUInt8 ∈ header)
    (first : Bytes) (size : UInt32) (filler second trailing : Bytes) :
    plain header first ≠ tagged size filler second trailing := by
  intro heq
  have hplain := isTagged_plain hunbroken hmarked first
  rw [heq, isTagged_tagged] at hplain
  cases hplain

/-- The event that a block of properties describes is the one that is read, in either form: from the
kernel behind any header without a zero byte and with an `@`, from the device manager at any place
behind the fields of the header and before anything. No message has both forms. -/
theorem decode_of_describes {entries : List Bytes} {action devpath subsystem : String}
    {devname : Option String} (h : Describes entries action devpath subsystem devname) :
    (∀ header, 0 ∉ header → '@'.toUInt8 ∈ header →
      decode (plain header (block entries)) = .ok ⟨.ofName action, devpath, subsystem, devname⟩) ∧
    (∀ size filler trailing, headerSize + filler.length < 2 ^ 32 →
      (block entries).length < 2 ^ 32 →
        decode (tagged size filler (block entries) trailing) =
          .ok ⟨.ofName action, devpath, subsystem, devname⟩) ∧
    ∀ header first size filler second trailing, 0 ∉ header → '@'.toUInt8 ∈ header →
      plain header first ≠ tagged size filler second trailing := by
  have hevent := ofEntries_of_describes h
  refine ⟨fun header hunbroken hmarked => ?_, fun size filler trailing hfiller hblock => ?_, ?_⟩
  · rw [decode, properties_plain hunbroken hmarked]
    exact hevent
  · rw [decode, properties_tagged size filler _ trailing hfiller hblock]
    exact hevent
  · intro header first size filler second trailing hunbroken hmarked
    exact plain_ne_tagged hunbroken hmarked first size filler second trailing

/-- Entries of a port that goes: an earlier path, an entry without a value, one that is no text, a
value with two marks, and nothing behind the last zero byte. -/
def scattered : List Bytes :=
  [assignment "DEVPATH" "/devices/old", Text.utf8 "SEQNUM", [0xff, 0x3d], assignment "SUBSYSTEM" "tty",
    assignment "ACTION" "remove", assignment "DEVPATH" "/devices/a=b=c", []]

theorem not_assigned_of_prefix {key : String} {entries : List Bytes}
    (h : ∀ entry ∈ entries, ¬Text.utf8 (key ++ "=") <+: entry) (other : String) :
    assignment key other ∉ entries :=
  fun hmem => h _ hmem (prefix_assignment key other)

theorem describes_scattered : Describes scattered "remove" "/devices/a=b=c" "tty" none where
  separate := by simp only [scattered, assignment, Text.utf8_eq]; decide
  action := ⟨scattered.take 4, scattered.drop 5, rfl, not_assigned_of_prefix <| by
    simp only [scattered, assignment, Text.utf8_eq]; decide⟩
  devpath := ⟨scattered.take 5, scattered.drop 6, rfl, not_assigned_of_prefix <| by
    simp only [scattered, assignment, Text.utf8_eq]; decide⟩
  subsystem := ⟨scattered.take 3, scattered.drop 4, rfl, not_assigned_of_prefix <| by
    simp only [scattered, assignment, Text.utf8_eq]; decide⟩
  devname := not_assigned_of_prefix <| by simp only [scattered, assignment, Text.utf8_eq]; decide

theorem decode_scattered : Describes scattered "remove" "/devices/a=b=c" "tty" none ∧
    decode (plain (Text.utf8 "remove@/devices/old") (block scattered)) =
      .ok ⟨.remove, "/devices/a=b=c", "tty", none⟩ ∧
    decode (tagged 7 [0, 1, 2] (block scattered) [0, 3]) =
      .ok ⟨.remove, "/devices/a=b=c", "tty", none⟩ := by
  obtain ⟨hplain, htagged, -⟩ := decode_of_describes describes_scattered
  refine ⟨describes_scattered, hplain _ ?_ ?_, htagged _ _ _ (by decide) ?_⟩
  · rw [Text.utf8_eq]
    decide
  · rw [Text.utf8_eq]
    decide
  · simp only [block, scattered, assignment, Text.utf8_eq]
    decide

end Uevent
end Hotplug
