/-!
# Data

Values of documents: what a document in one of two notations says, before anything is known of what it
is meant for. Types that can be written into documents say how they are written and read.

A record may be given by names or, shorter, as the list of its fields in order. A choice is given by
its name, or as a record whose only entry has that name and says nothing.

## Main definitions

* `Hotplug.Datum`, `Hotplug.Dialect`
* `Hotplug.Fields`, `Hotplug.Datum.fields?`: the fields of a record.
* `Hotplug.Coded`: types that can be written and read.
-/

namespace Hotplug

/-- A value of a document. -/
inductive Datum
  /-- Nothing. -/
  | null
  /-- Yes or no. -/
  | flag (value : Bool)
  /-- A whole number. -/
  | whole (value : Int)
  /-- A number that is not written as a whole one. No type takes it, so its value does not matter. -/
  | fraction
  /-- A date or a time. No type takes it, but it counts as a record none of whose entries is known. -/
  | date
  | text (value : String)
  | list (values : List Datum)
  /-- Values under names. -/
  | record (entries : List (String × Datum))
  deriving Repr, Inhabited

/-- The kind of document that a value comes from. -/
inductive Dialect
  /-- Interchange documents, which can say nothing by a word of its own. -/
  | json
  /-- Configuration documents, which cannot. -/
  | toml
  deriving DecidableEq, Repr

/-- The fields of a record. -/
inductive Fields
  /-- Under names. -/
  | named (entries : List (String × Datum))
  | inOrder (values : List Datum)

namespace Fields

/-- The field of a name, which is the field at a place if fields are given in order. -/
def get? (fields : Fields) (place : Nat) (name : String) : Option Datum :=
  match fields with
  | named entries => entries.lookup name
  | inOrder values => values[place]?

/-- Whether names say which field is which. -/
def isNamed : Fields → Bool
  | named _ => true
  | inOrder _ => false

/-- Whether every name is among the given ones. -/
def onlyKnown (names : List String) : Fields → Bool
  | named entries => entries.all fun (name, _) => names.contains name
  | inOrder _ => true

end Fields

namespace Datum

/-- The fields of a record with so many fields. A list that is too long is no record in interchange
documents; in configuration documents what is too much is ignored. -/
def fields? (dialect : Dialect) (count : Nat) : Datum → Option Fields
  | record entries => some (.named entries)
  | date => some (.named [])
  | list values =>
    if dialect = .toml ∨ values.length ≤ count then some (.inOrder values) else none
  | _ => none

/-- Whether a value says nothing, as what stands under the name of a choice has to. -/
def saysNothing (dialect : Dialect) : Datum → Bool
  | null => dialect = .json
  | list values => dialect = .toml && values.isEmpty
  | record entries => dialect = .toml && entries.isEmpty
  | _ => false

/-- The name of a choice. -/
def choice? (dialect : Dialect) : Datum → Option String
  | text name => some name
  | record [(name, value)] => if value.saysNothing dialect then some name else none
  | _ => none

/-- A whole number from `low` on and below `high`. -/
def wholeIn? (low high : Int) : Datum → Option Int
  | whole value => if low ≤ value ∧ value < high then some value else none
  | _ => none

/-- A whole number from zero on and below `high`. -/
def naturalBelow? (high : Nat) (datum : Datum) : Option Nat :=
  (datum.wholeIn? 0 high).map Int.toNat

end Datum

/-- A type whose values can be written into documents and read from them. -/
class Coded (α : Type) where
  /-- Writes a value. -/
  encode : α → Datum
  /-- Reads a value, if it is one. -/
  decode? : Dialect → Datum → Option α

namespace Coded

variable {α : Type}

/-- Reads a field that has to be there. -/
def required [Coded α] (dialect : Dialect) (fields : Fields) (place : Nat) (name : String) :
    Option α :=
  (fields.get? place name).bind (decode? dialect)

/-- Reads a field that may be left out; then it has the given value. -/
def withDefault [Coded α] (value : α) (dialect : Dialect) (fields : Fields) (place : Nat)
    (name : String) : Option α :=
  match fields.get? place name with
  | none => some value
  | some datum => decode? dialect datum

/-- Reads a field that may be left out among named ones; then it has the given value. -/
def withDefaultIfNamed [Coded α] (value : α) (dialect : Dialect) (fields : Fields) (place : Nat)
    (name : String) : Option α :=
  match fields.get? place name with
  | none => if fields.isNamed then some value else none
  | some datum => decode? dialect datum

/-- How a choice among named values is written and read. -/
@[reducible] def ofNames (name : α → String) (ofName? : String → Option α) : Coded α where
  encode value := .text (name value)
  decode? dialect datum := (datum.choice? dialect).bind ofName?

instance : Coded Bool where
  encode := .flag
  decode? _
    | .flag value => some value
    | _ => none

instance : Coded String where
  encode := .text
  decode? _
    | .text value => some value
    | _ => none

instance : Coded UInt8 where
  encode value := .whole value.toNat
  decode? _ datum := (datum.naturalBelow? 0x100).map UInt8.ofNat

instance : Coded UInt16 where
  encode value := .whole value.toNat
  decode? _ datum := (datum.naturalBelow? 0x10000).map UInt16.ofNat

instance : Coded UInt32 where
  encode value := .whole value.toNat
  decode? _ datum := (datum.naturalBelow? 0x100000000).map UInt32.ofNat

instance : Coded UInt64 where
  encode value := .whole value.toNat
  decode? _ datum := (datum.naturalBelow? 0x10000000000000000).map UInt64.ofNat

instance : Coded Int32 where
  encode value := .whole value.toInt
  decode? _ datum := (datum.wholeIn? (-0x80000000) 0x80000000).map Int32.ofInt

instance [Coded α] : Coded (Option α) where
  encode
    | none => .null
    | some value => encode value
  decode? dialect
    | .null => some none
    | datum => (decode? dialect datum).map some

instance [Coded α] : Coded (List α) where
  encode values := .list (values.map encode)
  decode? dialect
    | .list values => values.mapM (decode? dialect)
    | _ => none

end Coded

end Hotplug
