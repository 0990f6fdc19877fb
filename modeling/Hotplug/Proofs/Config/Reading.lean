import Mathlib
import Hotplug.Config.Load
import Hotplug.Proofs.Toml.Shape
import Hotplug.Proofs.Wait.Entries
/-!
# What a configuration document has to say

A document is taken as a configuration if it knows no parts but the three, and if what it tells of the
known fields of these is of the right kind and within range. Whatever it does not tell is as it is without
a document; the order in which it tells things, and what else it tells in a part, do not count.

## Main definitions

* `Hotplug.Datum.Has`, `Hotplug.Datum.Tells`: what stands in a document, wherever.
* `Hotplug.Config.Plain`: documents in which parts are tables and choices are texts.
* `Hotplug.Config.Admissible`: the conditions under which a document is taken.
* `Hotplug.Config.Reads`: a configuration sets what a document tells.
* `Hotplug.DescriptorSet.AcceptsExactly`: how many entries a set takes.

## Main statements

* `Hotplug.Config.ofDatum_eq_ok_iff`
* `Hotplug.DescriptorSet.acceptsExactly_capacity`
* `Hotplug.Config.documents_read`
-/

namespace Hotplug

variable {α : Type} {entries : List (String × Datum)} {part name : String} {datum document : Datum}

/-! ### What stands in a document -/

/-- A table has a value under a name. -/
def Datum.Has (table : Datum) (name : String) (value : Datum) : Prop :=
  ∃ entries, table = .record entries ∧ (name, value) ∈ entries

/-- A document tells the value of a field of one of its parts. -/
def Datum.Tells (document : Datum) (part name : String) (value : Datum) : Prop :=
  ∃ table, document.Has part table ∧ table.Has name value

theorem Datum.has_record : (Datum.record entries).Has name datum ↔ (name, datum) ∈ entries :=
  ⟨fun ⟨_, heq, hmem⟩ => Datum.record.inj heq ▸ hmem, fun hmem => ⟨entries, rfl, hmem⟩⟩

theorem Datum.lookup_eq_some_iff (hnames : (entries.map Prod.fst).Nodup) :
    entries.lookup name = some datum ↔ (name, datum) ∈ entries := by
  induction entries with
  | nil => exact iff_of_false nofun List.not_mem_nil
  | cons entry rest ih =>
    obtain ⟨hfirst, hrest⟩ := List.nodup_cons.1 hnames
    obtain ⟨key, value⟩ := entry
    by_cases heq : name = key
    · subst heq
      rw [List.lookup_cons_self, List.mem_cons, Prod.mk.injEq]
      refine ⟨fun h => .inl ⟨rfl, (Option.some.inj h).symm⟩, ?_⟩
      rintro (⟨-, rfl⟩ | hmem)
      · rfl
      · exact absurd (List.mem_map_of_mem hmem) hfirst
    · have hlookup : ((key, value) :: rest).lookup name = rest.lookup name := by
        rw [List.lookup_cons, beq_false_of_ne heq]
      have hmem : (name, datum) ∈ (key, value) :: rest ↔ (name, datum) ∈ rest := by
        simp [heq]
      rw [hlookup, hmem, ih hrest]

theorem Datum.lookup_eq_none_iff (hnames : (entries.map Prod.fst).Nodup) :
    entries.lookup name = none ↔ ∀ datum, (name, datum) ∉ entries := by
  rw [Option.eq_none_iff_forall_ne_some]
  exact forall_congr' fun datum => not_congr (lookup_eq_some_iff hnames)

/-- The value of a field: what is told under its name, or what counts if nothing is. -/
inductive Field [Coded α] (told : String → Datum → Prop) (name : String) (absent : α) : α → Prop
  | given {value : α} (h : told name (Coded.encode value)) : Field told name absent value
  | silent (h : ∀ datum, ¬told name datum) : Field told name absent absent

namespace Coded

/-! ### Values that are written in one way only -/

theorem eq_encode_string {value : String} (h : decode? .toml datum = some value) :
    datum = encode value := by
  cases datum with
  | text text =>
    cases h
    rfl
  | _ => cases h

theorem wholeIn?_eq_some_iff {low high value : Int} :
    datum.wholeIn? low high = some value ↔ datum = .whole value ∧ low ≤ value ∧ value < high := by
  cases datum with
  | whole number =>
    rw [Datum.wholeIn?, Option.ite_none_right_eq_some, Datum.whole.injEq, Option.some.injEq]
    constructor
    · rintro ⟨hrange, rfl⟩
      exact ⟨rfl, hrange⟩
    · rintro ⟨rfl, hrange⟩
      exact ⟨hrange, rfl⟩
  | _ => exact iff_of_false nofun nofun

theorem eq_encode_uint64 {value : UInt64} (h : decode? .toml datum = some value) :
    datum = encode value := by
  obtain ⟨size, hsize, rfl⟩ := Option.map_eq_some_iff.1 h
  obtain ⟨number, hnumber, rfl⟩ := Option.map_eq_some_iff.1 hsize
  obtain ⟨rfl, hlow, hhigh⟩ := wholeIn?_eq_some_iff.1 hnumber
  have hsmall : number.toNat < 2 ^ 64 := by omega
  change Datum.whole number = .whole (UInt64.ofNat number.toNat).toNat
  rw [UInt64.toNat_ofNat_of_lt' hsmall, Int.toNat_of_nonneg hlow]

theorem eq_encode_int32 {value : Int32} (h : decode? .toml datum = some value) :
    datum = encode value := by
  obtain ⟨number, hnumber, rfl⟩ := Option.map_eq_some_iff.1 h
  obtain ⟨rfl, hlow, hhigh⟩ := wholeIn?_eq_some_iff.1 hnumber
  change Datum.whole number = .whole (Int32.ofInt number).toInt
  rw [Int32.toInt_ofInt_of_le hlow hhigh]

/-- A choice that is not written as a table. -/
theorem eq_text_of_choice? {dialect : Dialect} {written : String}
    (hplain : ∀ entries, datum ≠ .record entries) (h : datum.choice? dialect = some written) :
    datum = .text written := by
  cases datum with
  | text text => exact congrArg Datum.text (Option.some.inj h)
  | record entries => exact absurd rfl (hplain entries)
  | _ => cases h

theorem eq_text_of_ofNames {name : α → String} {values : List α} {dialect : Dialect} {value : α}
    (hplain : ∀ entries, datum ≠ .record entries)
    (h : (ofNames name fun text => values.find? (name · == text)).decode? dialect datum = some value) :
    datum = .text (name value) := by
  obtain ⟨text, htext, hvalue⟩ := Option.bind_eq_some_iff.1 h
  have hname : name value = text := by simpa using List.find?_some hvalue
  rw [eq_text_of_choice? hplain htext, hname]

theorem eq_encode_source {value : EventSource} (hplain : ∀ entries, datum ≠ .record entries)
    (h : decode? .toml datum = some value) : datum = encode value :=
  eq_text_of_ofNames hplain h

theorem eq_encode_code {value : Code} (hplain : ∀ entries, datum ≠ .record entries)
    (h : decode? .toml datum = some value) : datum = encode value :=
  eq_text_of_ofNames hplain h

theorem eq_encode_codes {values : List Code}
    (hplain : ∀ data, datum = .list data → ∀ entries, .record entries ∉ data)
    (h : decode? .toml datum = some values) : datum = encode values := by
  cases datum with
  | list data =>
    have hdata := hplain data rfl
    clear hplain
    change data.mapM (decode? .toml) = some values at h
    refine congrArg Datum.list ?_
    induction data generalizing values with
    | nil =>
      cases h
      rfl
    | cons first rest ih =>
      rw [List.mapM_cons] at h
      obtain ⟨code, hcode, h⟩ := Option.bind_eq_some_iff.1 h
      obtain ⟨codes, hcodes, heq⟩ := Option.bind_eq_some_iff.1 h
      cases heq
      have hfirst : first = encode code := by
        refine eq_encode_code (fun entries heq => ?_) hcode
        exact hdata entries (heq ▸ List.mem_cons_self)
      rw [List.map_cons, ← hfirst, ← ih (fun entries => ?_) hcodes]
      exact fun hmem => hdata entries (List.mem_cons_of_mem _ hmem)
  | _ => cases h

/-! ### Fields and parts -/

section Field

variable [Coded α] [Faithful α] {told : String → Datum → Prop} {absent : α}

theorem withDefault_eq_some_iff (hnames : (entries.map Prod.fst).Nodup)
    (htold : ∀ datum, told name datum ↔ (name, datum) ∈ entries)
    (hexact : ∀ datum (value : α), told name datum → decode? .toml datum = some value →
      datum = encode value) {place : Nat} {value : α} :
    withDefault absent .toml (.named entries) place name = some value ↔
      Field told name absent value := by
  have hlookup : Fields.get? (.named entries) place name = entries.lookup name := rfl
  rw [withDefault, hlookup]
  constructor
  · intro h
    split at h
    next hnone =>
      cases h
      refine .silent fun datum hgiven => ?_
      exact (Datum.lookup_eq_none_iff hnames).1 hnone datum ((htold datum).1 hgiven)
    next datum hsome =>
      have hgiven := (htold datum).2 ((Datum.lookup_eq_some_iff hnames).1 hsome)
      have heq := hexact datum value hgiven h
      subst heq
      exact .given hgiven
  · rintro (hgiven | hsilent)
    · rw [(Datum.lookup_eq_some_iff hnames).2 ((htold _).1 hgiven)]
      exact Faithful.decode_encode .toml value
    · have hnone := (Datum.lookup_eq_none_iff hnames).2 fun datum hmem =>
        hsilent datum ((htold datum).2 hmem)
      rw [hnone]

omit [Faithful α] in
theorem field_iff_of_silent (h : ∀ datum, ¬told name datum) {value : α} :
    Field told name absent value ↔ value = absent := by
  constructor
  · rintro (hgiven | -)
    · exact absurd hgiven (h _)
    · rfl
  · rintro rfl
    exact .silent h

omit [Faithful α] in
theorem exists_field (h : ∀ datum, told name datum → ∃ value : α, datum = encode value) :
    ∃ value, Field told name absent value := by
  by_cases hsome : ∃ datum, told name datum
  · obtain ⟨datum, hgiven⟩ := hsome
    obtain ⟨value, rfl⟩ := h datum hgiven
    exact ⟨value, .given hgiven⟩
  · exact ⟨absent, .silent fun datum hgiven => hsome ⟨datum, hgiven⟩⟩

theorem ne_empty_of_field {told : String → Datum → Prop} {absent value : String}
    (h : Field told name absent value) (habsent : absent ≠ "")
    (htold : ∀ datum, told name datum → ∃ text, datum = .text text ∧ text ≠ "") : value ≠ "" := by
  cases h with
  | silent => exact habsent
  | given hgiven =>
    obtain ⟨text, htext, hne⟩ := htold _ hgiven
    cases htext
    exact hne

theorem exists_field_text {told : String → Datum → Prop} {absent : String}
    (h : ∀ datum, told name datum → ∃ text, datum = .text text ∧ text ≠ "") :
    ∃ value : String, Field told name absent value := by
  refine exists_field fun datum hgiven => ?_
  obtain ⟨text, htext, -⟩ := h datum hgiven
  exact ⟨text, htext⟩

end Field

/-- A part is there, with the entries that the document tells of it, or it is not. -/
theorem told_cases (hfits : (Datum.record entries).Fits .toml)
    (hplain : ∀ table, (Datum.record entries).Has part table → ∃ inner, table = .record inner) :
    (∃ inner, entries.lookup part = some (.record inner) ∧ (inner.map Prod.fst).Nodup ∧
      ∀ name datum, (Datum.record entries).Tells part name datum ↔ (name, datum) ∈ inner) ∨
    (entries.lookup part = none ∧ ∀ name datum, ¬(Datum.record entries).Tells part name datum) := by
  obtain ⟨hnames, hitems⟩ := Datum.fits_record_iff.1 hfits
  cases hlookup : entries.lookup part with
  | none =>
    refine .inr ⟨rfl, ?_⟩
    rintro name datum ⟨table, hpart, -⟩
    exact (Datum.lookup_eq_none_iff hnames).1 hlookup table (Datum.has_record.1 hpart)
  | some table =>
    have hmem := (Datum.lookup_eq_some_iff hnames).1 hlookup
    obtain ⟨inner, rfl⟩ := hplain table (Datum.has_record.2 hmem)
    have hinner := (Datum.fits_record_iff.1 (hitems _ hmem)).1
    refine .inl ⟨inner, rfl, hinner, fun name datum => ⟨?_, fun hdatum => ?_⟩⟩
    · rintro ⟨table, hpart, hdatum⟩
      have hsame := (Datum.lookup_eq_some_iff hnames).2 (Datum.has_record.1 hpart)
      rw [hlookup] at hsame
      cases hsame
      exact Datum.has_record.1 hdatum
    · exact ⟨_, Datum.has_record.2 hmem, Datum.has_record.2 hdatum⟩

end Coded

namespace Config

open Coded

/-- Documents in which parts are tables and choices are not. -/
structure Plain (document : Datum) : Prop where
  parts : ∀ part ∈ configParts, ∀ table, document.Has part table → ∃ entries, table = .record entries
  masked : ∀ values, document.Tells "log" "masked" (.list values) → ∀ entries, .record entries ∉ values
  source : ∀ entries, ¬document.Tells "linux" "uevent_source" (.record entries)

/-- The conditions under which a document is taken. -/
structure Admissible (document : Datum) : Prop where
  known : ∀ part table, document.Has part table → part ∈ ["poll", "log", "linux"]
  capacity : ∀ datum, document.Tells "poll" "descriptor_capacity" datum →
    ∃ size : Nat, datum = .whole size ∧ 1 ≤ size ∧ size ≤ 2 ^ 63 - 1
  slice : ∀ datum, document.Tells "poll" "chunk_slice_ms" datum →
    ∃ time : Nat, datum = .whole time ∧ 1 ≤ time ∧ time ≤ 2 ^ 31 - 1
  masked : ∀ datum, document.Tells "log" "masked" datum →
    ∃ codes : List Code, datum = .list (codes.map fun code => .text code.name)
  root : ∀ datum, document.Tells "linux" "sysfs_root" datum → ∃ path, datum = .text path ∧ path ≠ ""
  devRoot : ∀ datum, document.Tells "linux" "dev_root" datum → ∃ path, datum = .text path ∧ path ≠ ""
  source : ∀ datum, document.Tells "linux" "uevent_source" datum →
    datum = .text "udev" ∨ datum = .text "kernel"

/-- A configuration sets what a document tells, and is as it is by default besides. -/
structure Reads (document : Datum) (config : Config) : Prop where
  capacity : Field (document.Tells "poll") "descriptor_capacity" 256 config.poll.capacity
  slice : Field (document.Tells "poll") "chunk_slice_ms" 10 config.poll.slice
  masked : Field (document.Tells "log") "masked" [] config.log.masked
  root : Field (document.Tells "linux") "sysfs_root" "/sys" config.linux.sysfs.root
  devRoot : Field (document.Tells "linux") "dev_root" "/dev" config.linux.sysfs.devRoot
  source : Field (document.Tells "linux") "uevent_source" .udev config.linux.events

/-! ### Parts and their fields -/

variable {place : Nat} {config : Config}

theorem decode_poll_iff {setup : PollSetup} : decode? .toml (.record entries) = some setup ↔
    withDefault 256 .toml (.named entries) 0 "descriptor_capacity" = some setup.capacity ∧
    withDefault 10 .toml (.named entries) 1 "chunk_slice_ms" = some setup.slice := by
  constructor
  · intro h
    obtain ⟨fields, hfields, h⟩ := Option.bind_eq_some_iff.1 h
    cases hfields
    obtain ⟨capacity, hcapacity, h⟩ := Option.bind_eq_some_iff.1 h
    obtain ⟨slice, hslice, heq⟩ := Option.bind_eq_some_iff.1 h
    cases heq
    exact ⟨hcapacity, hslice⟩
  · rintro ⟨hcapacity, hslice⟩
    exact reads rfl (reads hcapacity (reads hslice rfl))

theorem decode_log_iff {setup : LogSetup} : decode? .toml (.record entries) = some setup ↔
    withDefault [] .toml (.named entries) 0 "masked" = some setup.masked := by
  constructor
  · intro h
    obtain ⟨fields, hfields, h⟩ := Option.bind_eq_some_iff.1 h
    cases hfields
    obtain ⟨masked, hmasked, heq⟩ := Option.bind_eq_some_iff.1 h
    cases heq
    exact hmasked
  · intro hmasked
    exact reads rfl (reads hmasked rfl)

theorem decode_linux_iff {setup : LinuxSetup} : decode? .toml (.record entries) = some setup ↔
    withDefault "/sys" .toml (.named entries) 0 "sysfs_root" = some setup.sysfs.root ∧
    withDefault "/dev" .toml (.named entries) 1 "dev_root" = some setup.sysfs.devRoot ∧
    withDefault .udev .toml (.named entries) 2 "uevent_source" = some setup.events := by
  constructor
  · intro h
    obtain ⟨fields, hfields, h⟩ := Option.bind_eq_some_iff.1 h
    cases hfields
    obtain ⟨root, hroot, h⟩ := Option.bind_eq_some_iff.1 h
    obtain ⟨devRoot, hdevRoot, h⟩ := Option.bind_eq_some_iff.1 h
    obtain ⟨events, hevents, heq⟩ := Option.bind_eq_some_iff.1 h
    cases heq
    exact ⟨hroot, hdevRoot, hevents⟩
  · rintro ⟨hroot, hdevRoot, hevents⟩
    exact reads rfl (reads hroot (reads hdevRoot (reads hevents rfl)))

theorem decode_config_iff : decode? .toml (.record entries) = some config ↔
    (Fields.named entries).onlyKnown configParts = true ∧
    withDefault {} .toml (.named entries) 0 "poll" = some config.poll ∧
    withDefault {} .toml (.named entries) 1 "log" = some config.log ∧
    withDefault {} .toml (.named entries) 2 "linux" = some config.linux := by
  constructor
  · intro h
    obtain ⟨fields, hfields, h⟩ := Option.bind_eq_some_iff.1 h
    cases hfields
    split at h
    · cases h
    next hknown =>
    obtain ⟨poll, hpoll, h⟩ := Option.bind_eq_some_iff.1 h
    obtain ⟨log, hlog, h⟩ := Option.bind_eq_some_iff.1 h
    obtain ⟨linux, hlinux, heq⟩ := Option.bind_eq_some_iff.1 h
    cases heq
    exact ⟨by simpa using hknown, hpoll, hlog, hlinux⟩
  · rintro ⟨hknown, hpoll, hlog, hlinux⟩
    refine reads rfl ?_
    rw [hknown]
    exact reads hpoll (reads hlog (reads hlinux rfl))

section Parts

variable (hfits : (Datum.record entries).Fits .toml) (hplain : Plain (.record entries))

include hfits hplain

theorem poll_eq_some_iff {setup : PollSetup} :
    withDefault {} .toml (.named entries) place "poll" = some setup ↔
      Field ((Datum.record entries).Tells "poll") "descriptor_capacity" 256 setup.capacity ∧
      Field ((Datum.record entries).Tells "poll") "chunk_slice_ms" 10 setup.slice := by
  rcases told_cases hfits (hplain.parts "poll" (by decide)) with
    ⟨inner, hlookup, hnames, htold⟩ | ⟨hlookup, hsilent⟩
  · rw [withDefault, Fields.get?, hlookup]
    refine decode_poll_iff.trans (and_congr ?_ ?_)
    · exact withDefault_eq_some_iff hnames (htold _) fun _ _ _ => eq_encode_uint64
    · exact withDefault_eq_some_iff hnames (htold _) fun _ _ _ => eq_encode_int32
  · rw [withDefault, Fields.get?, hlookup, field_iff_of_silent (hsilent _),
      field_iff_of_silent (hsilent _)]
    obtain ⟨capacity, slice⟩ := setup
    constructor
    · intro h
      cases h
      exact ⟨rfl, rfl⟩
    · rintro ⟨rfl, rfl⟩
      rfl

theorem log_eq_some_iff {setup : LogSetup} :
    withDefault {} .toml (.named entries) place "log" = some setup ↔
      Field ((Datum.record entries).Tells "log") "masked" [] setup.masked := by
  rcases told_cases hfits (hplain.parts "log" (by decide)) with
    ⟨inner, hlookup, hnames, htold⟩ | ⟨hlookup, hsilent⟩
  · rw [withDefault, Fields.get?, hlookup]
    refine decode_log_iff.trans (withDefault_eq_some_iff hnames (htold _) ?_)
    intro datum codes hgiven
    exact eq_encode_codes fun values heq => hplain.masked values (heq ▸ hgiven)
  · rw [withDefault, Fields.get?, hlookup, field_iff_of_silent (hsilent _)]
    obtain ⟨masked⟩ := setup
    constructor
    · intro h
      cases h
      rfl
    · rintro rfl
      rfl

theorem linux_eq_some_iff {setup : LinuxSetup} :
    withDefault {} .toml (.named entries) place "linux" = some setup ↔
      Field ((Datum.record entries).Tells "linux") "sysfs_root" "/sys" setup.sysfs.root ∧
      Field ((Datum.record entries).Tells "linux") "dev_root" "/dev" setup.sysfs.devRoot ∧
      Field ((Datum.record entries).Tells "linux") "uevent_source" .udev setup.events := by
  rcases told_cases hfits (hplain.parts "linux" (by decide)) with
    ⟨inner, hlookup, hnames, htold⟩ | ⟨hlookup, hsilent⟩
  · rw [withDefault, Fields.get?, hlookup]
    refine decode_linux_iff.trans (and_congr ?_ (and_congr ?_ ?_))
    · exact withDefault_eq_some_iff hnames (htold _) fun _ _ _ => eq_encode_string
    · exact withDefault_eq_some_iff hnames (htold _) fun _ _ _ => eq_encode_string
    · refine withDefault_eq_some_iff hnames (htold _) fun datum source hgiven => ?_
      exact eq_encode_source fun entries heq => hplain.source entries (heq ▸ hgiven)
  · rw [withDefault, Fields.get?, hlookup, field_iff_of_silent (hsilent _),
      field_iff_of_silent (hsilent _), field_iff_of_silent (hsilent _)]
    obtain ⟨⟨root, devRoot⟩, events⟩ := setup
    constructor
    · intro h
      cases h
      exact ⟨rfl, rfl, rfl⟩
    · rintro ⟨rfl, rfl, rfl⟩
      rfl

theorem decode_eq_some_iff : decode? .toml (.record entries) = some config ↔
    (∀ part table, (Datum.record entries).Has part table → part ∈ configParts) ∧
      Reads (.record entries) config := by
  have hknown : (Fields.named entries).onlyKnown configParts = true ↔
      ∀ part table, (Datum.record entries).Has part table → part ∈ configParts := by
    simp only [Fields.onlyKnown, List.all_eq_true, List.contains_iff_mem, Prod.forall, Datum.has_record]
  rw [decode_config_iff, hknown, poll_eq_some_iff hfits hplain, log_eq_some_iff hfits hplain,
    linux_eq_some_iff hfits hplain]
  refine and_congr_right fun _ => ⟨?_, ?_⟩
  · rintro ⟨⟨hcapacity, hslice⟩, hmasked, hroot, hdevRoot, hsource⟩
    exact ⟨hcapacity, hslice, hmasked, hroot, hdevRoot, hsource⟩
  · intro h
    exact ⟨⟨h.capacity, h.slice⟩, h.masked, h.root, h.devRoot, h.source⟩

end Parts

theorem check_eq_ok_iff : config.check = .ok () ↔ config.poll.capacity ≠ 0 ∧ 0 < config.poll.slice ∧
    config.linux.sysfs.root ≠ "" ∧ config.linux.sysfs.devRoot ≠ "" := by
  simp only [check, String.isEmpty_iff]
  constructor
  · intro h
    split at h
    · cases h
    next hcapacity =>
    split at h
    · cases h
    next hslice =>
    split at h
    · cases h
    next hroot =>
    split at h
    · cases h
    next hdevRoot =>
    exact ⟨hcapacity, Int32.not_le.1 hslice, hroot, hdevRoot⟩
  · rintro ⟨hcapacity, hslice, hroot, hdevRoot⟩
    rw [if_neg hcapacity, if_neg (Int32.not_le.2 hslice), if_neg hroot, if_neg hdevRoot]

theorem ofDatum_eq_ok_iff :
    ofDatum document = .ok config ↔ decode? .toml document = some config ∧ config.check = .ok () := by
  rw [ofDatum]
  cases (decode? .toml document : Option Config) with
  | none => exact iff_of_false nofun fun h => by cases h.1
  | some read =>
    rw [Option.some.injEq]
    dsimp only
    constructor
    · intro h
      cases hcheck : read.check with
      | error refusal =>
        rw [hcheck] at h
        cases h
      | ok =>
        rw [hcheck] at h
        cases h
        exact ⟨rfl, hcheck⟩
    · rintro ⟨rfl, hcheck⟩
      rw [hcheck]
      rfl

/-! ### Which documents are taken -/

section Taken

variable (hfits : document.Fits .toml)

include hfits

/-- What is told of a field is told once, and it is something that a document can hold. -/
theorem tells_unique (h : document.Tells part name datum) :
    datum.Fits .toml ∧ ∀ other, document.Tells part name other → other = datum := by
  obtain ⟨table, ⟨entries, rfl, hpart⟩, ⟨inner, rfl, hdatum⟩⟩ := h
  obtain ⟨hnames, hitems⟩ := Datum.fits_record_iff.1 hfits
  obtain ⟨hinner, hvalues⟩ := Datum.fits_record_iff.1 (hitems _ hpart)
  refine ⟨hvalues _ hdatum, ?_⟩
  rintro other ⟨table, hagain, hother⟩
  have hsame := (Datum.lookup_eq_some_iff hnames).2 (Datum.has_record.1 hagain)
  rw [(Datum.lookup_eq_some_iff hnames).2 hpart] at hsame
  cases hsame
  have hequal := (Datum.lookup_eq_some_iff hinner).2 (Datum.has_record.1 hother)
  rw [(Datum.lookup_eq_some_iff hinner).2 hdatum] at hequal
  exact (Option.some.inj hequal).symm

theorem eq_encode_of_field [Coded α] {absent value : α}
    (h : Field (document.Tells part) name absent value) (htells : document.Tells part name datum) :
    datum = encode value := by
  cases h with
  | given hgiven => exact (tells_unique hfits hgiven).2 datum htells
  | silent hsilent => exact absurd htells (hsilent datum)

theorem Reads.admissible (h : Reads document config) (hcheck : config.check = .ok ())
    (hknown : ∀ part table, document.Has part table → part ∈ configParts) : Admissible document := by
  obtain ⟨hcapacity, hslice, hroot, hdevRoot⟩ := check_eq_ok_iff.1 hcheck
  constructor
  case known => exact hknown
  case capacity =>
    intro datum htells
    have hvalue := eq_encode_of_field hfits h.capacity htells
    have hholds := (tells_unique hfits htells).1
    rw [hvalue] at hholds
    have hbound : (config.poll.capacity.toNat : Int) < 2 ^ 63 := (Datum.fits_whole_iff.1 hholds).2
    -- The check rules out nothing but zero. The upper bound is that of numbers in a document.
    have hpositive : config.poll.capacity.toNat ≠ 0 := fun heq => hcapacity (UInt64.toNat_inj.1 heq)
    exact ⟨config.poll.capacity.toNat, hvalue, by omega, by omega⟩
  case slice =>
    intro datum htells
    have hvalue := eq_encode_of_field hfits h.slice htells
    have hpositive : 0 < config.poll.slice.toInt := Int32.lt_iff_toInt_lt.1 hslice
    have hbound := config.poll.slice.toInt_lt
    refine ⟨config.poll.slice.toInt.toNat, ?_, by omega, by omega⟩
    rw [hvalue, Int.toNat_of_nonneg (Int.le_of_lt hpositive)]
    rfl
  case masked =>
    intro datum htells
    exact ⟨config.log.masked, eq_encode_of_field hfits h.masked htells⟩
  case root =>
    intro datum htells
    exact ⟨config.linux.sysfs.root, eq_encode_of_field hfits h.root htells, hroot⟩
  case devRoot =>
    intro datum htells
    exact ⟨config.linux.sysfs.devRoot, eq_encode_of_field hfits h.devRoot htells, hdevRoot⟩
  case source =>
    intro datum htells
    have hvalue := eq_encode_of_field hfits h.source htells
    generalize config.linux.events = events at hvalue
    cases events with
    | udev => exact .inl hvalue
    | kernel => exact .inr hvalue

end Taken

theorem Admissible.check (hadmissible : Admissible document) (h : Reads document config) :
    config.check = .ok () := by
  obtain ⟨⟨capacity, slice⟩, log, ⟨⟨root, devRoot⟩, events⟩⟩ := config
  obtain ⟨hcapacity, hslice, -, hroot, hdevRoot, -⟩ := h
  rw [check_eq_ok_iff]
  dsimp only
  refine ⟨?_, ?_, ?_, ?_⟩
  · cases hcapacity with
    | silent => decide
    | given htells =>
      obtain ⟨size, hsize, hpositive, -⟩ := hadmissible.capacity _ htells
      have hsame : (capacity.toNat : Int) = size := Datum.whole.inj hsize
      rintro rfl
      have hzero : (0 : UInt64).toNat = 0 := rfl
      omega
  · cases hslice with
    | silent => decide
    | given htells =>
      obtain ⟨time, htime, hpositive, -⟩ := hadmissible.slice _ htells
      have hsame : slice.toInt = time := Datum.whole.inj htime
      have hzero : (0 : Int32).toInt = 0 := rfl
      refine Int32.lt_iff_toInt_lt.2 ?_
      omega
  · exact ne_empty_of_field hroot (by decide) hadmissible.root
  · exact ne_empty_of_field hdevRoot (by decide) hadmissible.devRoot

theorem Admissible.exists_reads (h : Admissible document) : ∃ config, Reads document config := by
  have hcapacity : ∃ value : UInt64, Field (document.Tells "poll") "descriptor_capacity" 256 value := by
    refine exists_field fun datum htells => ?_
    obtain ⟨size, rfl, -, hbound⟩ := h.capacity datum htells
    have hsmall : size < 2 ^ 64 := by omega
    have hsize : (UInt64.ofNat size).toNat = size := UInt64.toNat_ofNat_of_lt' hsmall
    exact ⟨.ofNat size, congrArg (fun size : Nat => Datum.whole size) hsize.symm⟩
  have hslice : ∃ value : Int32, Field (document.Tells "poll") "chunk_slice_ms" 10 value := by
    refine exists_field fun datum htells => ?_
    obtain ⟨time, rfl, -, hbound⟩ := h.slice datum htells
    have htime : (Int32.ofInt time).toInt = time := Int32.toInt_ofInt_of_le (by omega) (by omega)
    exact ⟨.ofInt time, congrArg Datum.whole htime.symm⟩
  have hmasked : ∃ value : List Code, Field (document.Tells "log") "masked" [] value :=
    exists_field h.masked
  have hroot : ∃ value : String, Field (document.Tells "linux") "sysfs_root" "/sys" value :=
    exists_field_text h.root
  have hdevRoot : ∃ value : String, Field (document.Tells "linux") "dev_root" "/dev" value :=
    exists_field_text h.devRoot
  have hsource : ∃ value : EventSource,
      Field (document.Tells "linux") "uevent_source" .udev value := by
    refine exists_field fun datum htells => ?_
    rcases h.source datum htells with rfl | rfl
    · exact ⟨.udev, rfl⟩
    · exact ⟨.kernel, rfl⟩
  obtain ⟨capacity, hcapacity⟩ := hcapacity
  obtain ⟨slice, hslice⟩ := hslice
  obtain ⟨masked, hmasked⟩ := hmasked
  obtain ⟨root, hroot⟩ := hroot
  obtain ⟨devRoot, hdevRoot⟩ := hdevRoot
  obtain ⟨events, hevents⟩ := hsource
  exact ⟨⟨⟨capacity, slice⟩, ⟨masked⟩, ⟨⟨root, devRoot⟩, events⟩⟩,
    ⟨hcapacity, hslice, hmasked, hroot, hdevRoot, hevents⟩⟩

end Config

/-! ### The set that is asked for -/

namespace DescriptorSet

/-- The set after an object was offered to it under a number. -/
def offered (set : DescriptorSet) (entry : Entry) : DescriptorSet :=
  match set.add entry.id entry.target with
  | .ok later => later
  | .error _ => set

/-- Of objects that can be waited for, offered one after the other under different numbers, the set takes
the first ones, so many and no more. -/
def AcceptsExactly (set : DescriptorSet) (count : Nat) : Prop :=
  ∀ items : List Entry, (∀ item ∈ items, item.target.isValid = true) → (items.map Entry.id).Nodup →
    (items.foldl offered set).entries = items.take count

variable {set : DescriptorSet}

theorem entries_foldl_offered {items : List Entry} (horderly : set.Orderly)
    (hvalid : ∀ item ∈ items, item.target.isValid = true)
    (hids : ((set.entries ++ items).map Entry.id).Nodup) :
    (items.foldl offered set).entries = (set.entries ++ items).take set.capacity := by
  induction items generalizing set with
  | nil =>
    rw [List.append_nil, List.take_of_length_le horderly.size_le]
    rfl
  | cons item rest ih =>
    obtain ⟨hfirst, hrest⟩ := List.forall_mem_cons.1 hvalid
    have hnew : item.id ∉ set.ids := by
      rw [List.map_append, List.map_cons, List.nodup_middle, List.nodup_cons] at hids
      exact fun hmem => hids.1 (List.mem_append_left _ hmem)
    by_cases hroom : set.size < set.capacity
    · have htakes : set.Takes item.id item.target := ⟨hroom, hnew, hfirst⟩
      have hoffered : set.offered item = set.extended item.id item.target := by
        rw [offered, add_of_takes htakes]
      have hassoc : (set.extended item.id item.target).entries ++ rest = set.entries ++ item :: rest :=
        List.append_assoc ..
      rw [List.foldl_cons, hoffered, ih (horderly.extended htakes) hrest (hassoc ▸ hids), hassoc]
      rfl
    · have hoffered : set.offered item = set := by
        obtain ⟨refusal, hadd⟩ := add_of_not_takes fun htakes : set.Takes item.id item.target =>
          hroom htakes.1
        rw [offered, hadd]
      have hfull : set.entries.length = set.capacity :=
        Nat.le_antisymm horderly.size_le (Nat.le_of_not_lt hroom)
      have hids : ((set.entries ++ rest).map Entry.id).Nodup :=
        hids.sublist (((List.sublist_cons_self item rest).append_left _).map _)
      rw [List.foldl_cons, hoffered, ih horderly hrest hids, List.take_left' hfull,
        List.take_left' hfull]

theorem acceptsExactly_capacity (setup : PollSetup) :
    (ofSetup setup).AcceptsExactly setup.capacity.toNat := by
  intro items hvalid hids
  exact entries_foldl_offered (orderly_empty _ _) hvalid hids

end DescriptorSet

/-- Whatever document a text says, in which parts are tables and choices are not: the text gives a
configuration just if the document is admissible, and that sets what the document tells and is as it is by
default besides. It is within range, and the descriptor set that it asks for takes so many entries as it
says. Any other text is an invalid request. -/
theorem Config.documents_read {text : String} (hparse : Toml.document? text = some document)
    (hplain : Plain document) :
    (∀ config, ofText text = .ok config ↔ Admissible document ∧ Reads document config) ∧
    (Admissible document → ∃ config, ofText text = .ok config) ∧
    (¬Admissible document → ∃ refusal, ofText text = .error refusal ∧ refusal.failure.code = .invalid) ∧
    ∀ config, ofText text = .ok config →
      config.check = .ok () ∧
      (DescriptorSet.ofSetup config.poll).AcceptsExactly config.poll.capacity.toNat := by
  obtain ⟨hfits, entries, rfl⟩ := Toml.exists_entries_of_document? hparse
  have htext : ofText text = ofDatum (.record entries) := by rw [ofText, hparse]
  have hiff : ∀ config, ofText text = .ok config ↔
      Admissible (.record entries) ∧ Reads (.record entries) config := by
    intro config
    rw [htext, ofDatum_eq_ok_iff, decode_eq_some_iff hfits hplain]
    constructor
    · rintro ⟨⟨hknown, hreads⟩, hcheck⟩
      exact ⟨hreads.admissible hfits hcheck hknown, hreads⟩
    · rintro ⟨hadmissible, hreads⟩
      exact ⟨⟨hadmissible.known, hreads⟩, hadmissible.check hreads⟩
  refine ⟨hiff, ?_, ?_, ?_⟩
  · intro hadmissible
    obtain ⟨config, hreads⟩ := hadmissible.exists_reads
    exact ⟨config, (hiff config).2 ⟨hadmissible, hreads⟩⟩
  · intro hnot
    cases hresult : ofText text with
    | error refusal => exact ⟨refusal, rfl, rfl⟩
    | ok config => exact absurd ((hiff config).1 hresult).1 hnot
  · intro config hok
    rw [htext] at hok
    exact ⟨(ofDatum_eq_ok_iff.1 hok).2, DescriptorSet.acceptsExactly_capacity config.poll⟩

/-- A document with one part, in which a field is told and another one that nobody knows. -/
theorem Config.documents_read_spare :
    ofText "[poll]\nspare = true\ndescriptor_capacity = 2\n" = .ok { poll := { capacity := 2 } } := by
  let inner : List (String × Datum) := [("spare", .flag true), ("descriptor_capacity", .whole 2)]
  let document : Datum := .record [("poll", .record inner)]
  have hparse : Toml.document? "[poll]\nspare = true\ndescriptor_capacity = 2\n" = some document := by
    cbv
  have hpart : ∀ part table, document.Has part table → part = "poll" ∧ table = .record inner := by
    intro part table hhas
    simpa [document] using Datum.has_record.1 hhas
  have hpoll : ∀ part name datum, document.Tells part name datum → part = "poll" := by
    rintro part name datum ⟨table, hhas, -⟩
    exact (hpart part table hhas).1
  have hfield : ∀ name datum, document.Tells "poll" name datum → name ≠ "spare" →
      name = "descriptor_capacity" ∧ datum = .whole 2 := by
    rintro name datum ⟨table, hhas, hfield⟩ hne
    obtain ⟨-, rfl⟩ := hpart "poll" table hhas
    rcases List.mem_cons.1 (Datum.has_record.1 hfield) with heq | hmem
    · exact absurd (congrArg Prod.fst heq) hne
    · exact Prod.mk.inj (List.mem_singleton.1 hmem)
  have hcapacity : document.Tells "poll" "descriptor_capacity" (.whole 2) :=
    ⟨.record inner, Datum.has_record.2 List.mem_cons_self,
      Datum.has_record.2 (List.mem_cons_of_mem _ List.mem_cons_self)⟩
  have hplain : Plain document := by
    constructor
    · intro part _ table hhas
      exact ⟨inner, (hpart part table hhas).2⟩
    · intro values h
      exact absurd (hpoll _ _ _ h) (by decide)
    · intro entries h
      exact absurd (hpoll _ _ _ h) (by decide)
  have hadmissible : Admissible document := by
    constructor
    case known =>
      intro part table hhas
      exact (hpart part table hhas).1 ▸ List.mem_cons_self
    case capacity =>
      intro datum h
      exact ⟨2, (hfield _ _ h (by decide)).2, by decide, by decide⟩
    case slice =>
      intro datum h
      exact absurd (hfield _ _ h (by decide)).1 (by decide)
    all_goals
      intro datum h
      exact absurd (hpoll _ _ _ h) (by decide)
  have hreads : Reads document { poll := { capacity := 2 } } := by
    constructor
    case capacity => exact .given hcapacity
    case slice => exact .silent fun datum h => absurd (hfield _ _ h (by decide)).1 (by decide)
    all_goals exact .silent fun datum h => absurd (hpoll _ _ _ h) (by decide)
  exact ((documents_read hparse hplain).1 _).2 ⟨hadmissible, hreads⟩

end Hotplug
