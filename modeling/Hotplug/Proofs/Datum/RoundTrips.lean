import Mathlib.Algebra.Group.Int.Defs
import Mathlib.Algebra.Group.Nat.Defs
import Hotplug.Config.Basic
/-!
# Values through documents and back

What a value is written as is read as that value again. So what any document says survives being written
anew: whatever the document leaves out, says nothing of or says besides, the written one is read the same
and is written the same once more.

## Main definitions

* `Hotplug.Datum.Fits`: values that a kind of document can hold.
* `Hotplug.Coded.Faithful`: types whose values are read as they were written.
* `Hotplug.Coded.RoundTrips`

## Main statements

* `Hotplug.Coded.round_trips`
-/

namespace Hotplug

/-- The bound of whole numbers. Both kinds of documents have 64 bits for them, configuration documents one
of these for a sign. -/
def Dialect.wholeBound : Dialect → Int
  | .json => 2 ^ 64
  | .toml => 2 ^ 63

/-- Values that a kind of document can hold. -/
inductive Datum.Fits (dialect : Dialect) : Datum → Prop
  | null (h : dialect = .json) : Fits dialect .null
  | flag (value : Bool) : Fits dialect (.flag value)
  | whole {value : Int} (h : -(2 ^ 63) ≤ value ∧ value < dialect.wholeBound) :
    Fits dialect (.whole value)
  | fraction : Fits dialect .fraction
  | date (h : dialect = .toml) : Fits dialect .date
  | text (value : String) : Fits dialect (.text value)
  | list {values : List Datum} (h : ∀ value ∈ values, value.Fits dialect) :
    Fits dialect (.list values)
  /-- No name occurs twice. -/
  | record {entries : List (String × Datum)} (hnames : (entries.map Prod.fst).Nodup)
    (h : ∀ entry ∈ entries, entry.2.Fits dialect) : Fits dialect (.record entries)

namespace Datum

variable {dialect : Dialect}

theorem fits_whole_iff {value : Int} :
    (whole value).Fits dialect ↔ -(2 ^ 63) ≤ value ∧ value < dialect.wholeBound :=
  ⟨fun | .whole h => h, .whole⟩

theorem fits_list_iff {values : List Datum} :
    (list values).Fits dialect ↔ ∀ value ∈ values, value.Fits dialect :=
  ⟨fun | .list h => h, .list⟩

theorem fits_record_iff {entries : List (String × Datum)} : (record entries).Fits dialect ↔
    (entries.map Prod.fst).Nodup ∧ ∀ entry ∈ entries, entry.2.Fits dialect :=
  ⟨fun | .record hnames h => ⟨hnames, h⟩, fun h => .record h.1 h.2⟩

end Datum

namespace Coded

variable {α β : Type}

/-! ### Types whose values are read as they were written -/

/-- A type whose values are read as they were written, in either notation. -/
class Faithful (α : Type) [Coded α] : Prop where
  fits : ∀ value : α, (encode value).Fits .json
  decode_encode : ∀ (dialect : Dialect) (value : α), decode? dialect (encode value) = some value

/-- A type none of whose values is written as nothing. -/
class Solid (α : Type) [Coded α] : Prop where
  encode_ne_null : ∀ value : α, encode value ≠ .null

section Fields

variable [Coded α] [Faithful α] {dialect : Dialect} {fields : Fields} {place : Nat} {name : String}
  {value : α}

theorem required_eq (h : fields.get? place name = some (encode value)) :
    required dialect fields place name = some value := by
  rw [required, h]
  exact Faithful.decode_encode dialect value

theorem withDefault_eq {absent : α} (h : fields.get? place name = some (encode value)) :
    withDefault absent dialect fields place name = some value := by
  rw [withDefault, h]
  exact Faithful.decode_encode dialect value

theorem withDefaultIfNamed_eq {absent : α} (h : fields.get? place name = some (encode value)) :
    withDefaultIfNamed absent dialect fields place name = some value := by
  rw [withDefaultIfNamed, h]
  exact Faithful.decode_encode dialect value

end Fields

/-- A field is read, and then the rest. -/
theorem reads {first : Option α} {rest : α → Option β} {value : α} {whole : β}
    (hfirst : first = some value) (hrest : rest value = some whole) : first >>= rest = some whole := by
  rw [hfirst]
  exact hrest

/-! ### Single values -/

theorem wholeIn?_eq {low high value : Int} (h : low ≤ value ∧ value < high) :
    (Datum.whole value).wholeIn? low high = some value :=
  if_pos h

theorem naturalBelow?_eq {high value : Nat} (h : value < high) :
    (Datum.whole value).naturalBelow? high = some value := by
  have hwhole : (Datum.whole value).wholeIn? 0 high = some (value : Int) :=
    wholeIn?_eq ⟨Int.natCast_nonneg value, Int.ofNat_lt.2 h⟩
  rw [Datum.naturalBelow?, hwhole]
  rfl

theorem fits_natural {value : Nat} (h : value < 2 ^ 64) :
    (Datum.whole value).Fits .json :=
  .whole ⟨by omega, Int.ofNat_lt.2 h⟩

/-- Names from which a choice can be told. -/
theorem faithful_ofNames {name : α → String} {ofName? : String → Option α}
    (h : ∀ value, ofName? (name value) = some value) : @Faithful α (ofNames name ofName?) :=
  @Faithful.mk α (ofNames name ofName?) (fun value => .text (name value)) fun _ value => h value

instance : Faithful Bool where
  fits := .flag
  decode_encode _ _ := rfl

instance : Faithful String where
  fits := .text
  decode_encode _ _ := rfl

instance : Faithful UInt8 where
  fits value := fits_natural (Nat.lt_trans value.toNat_lt (by decide))
  decode_encode _ value := Option.map_eq_some_iff.2
    ⟨value.toNat, naturalBelow?_eq value.toNat_lt, UInt8.ofNat_toNat⟩

instance : Faithful UInt16 where
  fits value := fits_natural (Nat.lt_trans value.toNat_lt (by decide))
  decode_encode _ value := Option.map_eq_some_iff.2
    ⟨value.toNat, naturalBelow?_eq value.toNat_lt, UInt16.ofNat_toNat⟩

instance : Faithful UInt32 where
  fits value := fits_natural (Nat.lt_trans value.toNat_lt (by decide))
  decode_encode _ value := Option.map_eq_some_iff.2
    ⟨value.toNat, naturalBelow?_eq value.toNat_lt, UInt32.ofNat_toNat⟩

instance : Faithful UInt64 where
  fits value := fits_natural value.toNat_lt
  decode_encode _ value := Option.map_eq_some_iff.2
    ⟨value.toNat, naturalBelow?_eq value.toNat_lt, UInt64.ofNat_toNat⟩

instance : Faithful Int32 where
  fits value := by
    have hlow := value.le_toInt
    have hhigh := value.toInt_lt
    exact .whole ⟨by omega, Int.lt_trans hhigh (by decide)⟩
  decode_encode _ value := Option.map_eq_some_iff.2
    ⟨value.toInt, wholeIn?_eq ⟨value.le_toInt, value.toInt_lt⟩, Int32.ofInt_toInt value⟩

instance [Coded α] [Faithful α] [Solid α] : Faithful (Option α) where
  fits
    | none => .null rfl
    | some value => Faithful.fits value
  decode_encode dialect
    | none => rfl
    | some value => by
      have hread := Faithful.decode_encode dialect value
      have hsolid := Solid.encode_ne_null value
      change decode? dialect (encode value) = some (some value)
      generalize encode value = datum at hread hsolid
      cases datum with
      | null => exact absurd rfl hsolid
      | _ => exact congrArg (Option.map some) hread

instance [Coded α] [Faithful α] : Faithful (List α) where
  fits values := by
    refine .list fun datum hmem => ?_
    obtain ⟨value, -, rfl⟩ := List.mem_map.1 hmem
    exact Faithful.fits value
  decode_encode dialect values := by
    show (values.map encode).mapM (decode? dialect) = some values
    induction values with
    | nil => rfl
    | cons value rest ih =>
      rw [List.map_cons, List.mapM_cons, ih, Faithful.decode_encode dialect value]
      rfl

instance : Solid String := ⟨fun _ => nofun⟩
instance : Solid UInt8 := ⟨fun _ => nofun⟩
instance : Solid UInt16 := ⟨fun _ => nofun⟩
instance : Solid Family := ⟨fun _ => nofun⟩

instance : Faithful Family := faithful_ofNames Family.ofName?_name
instance : Faithful Status := faithful_ofNames Status.ofName?_name
instance : Faithful Code := faithful_ofNames Code.ofName?_name
instance : Faithful Level := faithful_ofNames Level.ofName?_name
instance : Faithful Serial.Parity := faithful_ofNames Serial.Parity.ofName?_name
instance : Faithful Serial.FlowControl := faithful_ofNames Serial.FlowControl.ofName?_name
instance : Faithful EventSource := faithful_ofNames EventSource.ofName?_name

instance : Faithful Serial.Rate where
  fits rate := Faithful.fits rate.bps
  decode_encode dialect rate :=
    reads (Faithful.decode_encode dialect rate.bps) (Serial.Rate.ofBps?_bps rate)

/-! ### Records -/

/-- What the entries of a record are written as, one after the other. -/
theorem written [Coded α] [Faithful α] {name : String} {value : α} {rest : List (String × Datum)}
    (hrest : ∀ entry ∈ rest, entry.2.Fits .json) :
    ∀ entry ∈ (name, encode value) :: rest, entry.2.Fits .json :=
  List.forall_mem_cons.2 ⟨Faithful.fits value, hrest⟩

instance : Faithful Info where
  fits _ := .record (by simp only [List.map]; decide) <|
    written <| written <| written <| written <| written <| written <| written <| written <|
      written <| written <| nofun
  decode_encode _ _ :=
    reads rfl <| reads (required_eq rfl) <| reads (required_eq rfl) <| reads (required_eq rfl) <|
      reads (required_eq rfl) <| reads (required_eq rfl) <| reads (required_eq rfl) <|
      reads (required_eq rfl) <| reads (withDefault_eq rfl) <| reads (withDefault_eq rfl) <|
      reads (withDefault_eq rfl) <| rfl

instance : Faithful Filter where
  fits _ := .record (by simp only [List.map]; decide) <|
    written <| written <| written <| nofun
  decode_encode _ _ :=
    reads rfl <| reads (withDefaultIfNamed_eq rfl) <| reads (withDefaultIfNamed_eq rfl) <|
      reads (withDefaultIfNamed_eq rfl) <| rfl

instance : Faithful Serial.Settings where
  fits _ := .record (by simp only [List.map]; decide) <|
    written <| written <| written <| written <| written <| written <| nofun
  decode_encode _ _ :=
    reads rfl <| reads (required_eq rfl) <| reads (required_eq rfl) <| reads (required_eq rfl) <|
      reads (required_eq rfl) <| reads (required_eq rfl) <| reads (required_eq rfl) <| rfl

instance : Faithful Hid.Usage where
  fits _ := .record (by simp only [List.map]; decide) <|
    written <| written <| nofun
  decode_encode _ _ :=
    reads rfl <| reads (required_eq rfl) <| reads (required_eq rfl) <| rfl

instance : Faithful PollSetup where
  fits _ := .record (by simp only [List.map]; decide) <|
    written <| written <| nofun
  decode_encode _ _ :=
    reads rfl <| reads (withDefault_eq rfl) <| reads (withDefault_eq rfl) <| rfl

instance : Faithful LogSetup where
  fits _ := .record (by simp only [List.map]; decide) <|
    written <| nofun
  decode_encode _ _ :=
    reads rfl <| reads (withDefault_eq rfl) <| rfl

instance : Faithful LinuxSetup where
  fits _ := .record (by simp only [List.map]; decide) <|
    written <| written <| written <| nofun
  decode_encode _ _ :=
    reads rfl <| reads (withDefault_eq rfl) <| reads (withDefault_eq rfl) <|
      reads (withDefault_eq rfl) <| rfl

instance : Faithful Config where
  fits _ := .record (by simp only [List.map]; decide) <|
    written <| written <| written <| nofun
  decode_encode _ _ :=
    reads rfl <| reads (withDefault_eq rfl) <| reads (withDefault_eq rfl) <|
      reads (withDefault_eq rfl) <| rfl

/-! ### Round trips -/

/-- The values of a type are written into interchange documents and read from them without loss. Whatever
datum is read as a value, the value is written as one that an interchange document can hold, that is read
as the same value again and that is then written as itself. -/
structure RoundTrips (α : Type) [Coded α] : Prop where
  decode_encode : ∀ value : α,
    (encode value).Fits .json ∧ decode? .json (encode value) = some value
  encode_decode : ∀ (datum : Datum) (value : α), decode? .json datum = some value →
    (encode value).Fits .json ∧
      ∃ again, decode? .json (encode value) = some again ∧ again = value ∧
        encode again = encode value

theorem Faithful.roundTrips (α : Type) [Coded α] [Faithful α] : RoundTrips α where
  decode_encode value := ⟨fits value, Faithful.decode_encode .json value⟩
  encode_decode _ value _ :=
    ⟨fits value, value, Faithful.decode_encode .json value, rfl, rfl⟩

/-- Every value that is written into documents comes back from them as it was, and what a document says in
a form of its own is written in one form from then on. -/
theorem round_trips :
    RoundTrips Family ∧ RoundTrips Status ∧ RoundTrips Info ∧ RoundTrips Filter ∧
    RoundTrips Code ∧ RoundTrips Level ∧
    RoundTrips Serial.Rate ∧ RoundTrips Serial.Parity ∧ RoundTrips Serial.FlowControl ∧
    RoundTrips Serial.Settings ∧ RoundTrips Hid.Usage ∧
    RoundTrips EventSource ∧ RoundTrips PollSetup ∧ RoundTrips LogSetup ∧ RoundTrips LinuxSetup ∧
    RoundTrips Config :=
  ⟨Faithful.roundTrips _, Faithful.roundTrips _, Faithful.roundTrips _, Faithful.roundTrips _,
    Faithful.roundTrips _, Faithful.roundTrips _, Faithful.roundTrips _, Faithful.roundTrips _,
    Faithful.roundTrips _, Faithful.roundTrips _, Faithful.roundTrips _, Faithful.roundTrips _,
    Faithful.roundTrips _, Faithful.roundTrips _, Faithful.roundTrips _, Faithful.roundTrips _⟩

end Coded

end Hotplug
