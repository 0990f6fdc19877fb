import Hotplug.Bytes
import Hotplug.Malformed
import Hotplug.Text.Utf8
/-!
# Uevent messages

A message that announces a change of a device. It comes in two forms. The kernel sends
`action@path`, a zero byte, and properties; the device manager sends a binary header, which says
where in the message the properties are. Properties are entries of the form `KEY=value`, separated
by zero bytes. Of several entries with one key the last one counts; entries that are not text, or
have no `=`, count for nothing.

## Main definitions

* `Hotplug.Uevent`, `Hotplug.Uevent.Action`
* `Hotplug.Uevent.properties`: the bytes of the properties, in either form.
* `Hotplug.Uevent.decode`: the event that a message announces.
-/

namespace Hotplug

/-- What happened to a device. -/
inductive Uevent.Action
  /-- It appeared. -/
  | add
  /-- It vanished. -/
  | remove
  /-- Something else happened. -/
  | other (name : String)
  deriving DecidableEq, Repr

/-- A change of a device. -/
structure Uevent where
  /-- What happened. -/
  action : Uevent.Action
  /-- The path of the device below the root of the device tree. -/
  devpath : String
  /-- The subsystem of the device. -/
  subsystem : String
  /-- The name of the device node, if there is one. -/
  devname : Option String := none
  deriving DecidableEq, Repr

namespace Uevent

/-- The action with a given name. -/
def Action.ofName (name : String) : Action :=
  if name = "add" then .add else if name = "remove" then .remove else .other name

/-- The first bytes of a message with a binary header. -/
def mark : Bytes :=
  "libudev".toUTF8.toList ++ [0]

/-- The magic number of the binary header. -/
def magic : Nat := 0xfeedcafe

/-- The size of the binary header that every such message has. -/
def headerSize : Nat := 24

/-- The four bytes at a place. -/
def wordAt (message : Bytes) (place : Nat) : Bytes :=
  (message.drop place).take 4

/-- The properties of a message with a binary header. The header gives their place and length in the
byte order of the machine, least significant byte first. -/
def taggedProperties (message : Bytes) : Except Malformed (Bytes) :=
  if message.length < headerSize then .error (.truncated message.length)
  else
    let found := bigEndian (wordAt message 8)
    let offset := littleEndian (wordAt message 16)
    let length := littleEndian (wordAt message 20)
    if found ≠ magic then .error (.badMagic found)
    else if headerSize ≤ offset ∧ offset + length ≤ message.length then
      .ok ((message.drop offset).take length)
    else .error (.propertiesOutOfBounds offset length message.length)

/-- The properties of a message from the kernel: what follows the first zero byte, if an `@` comes
before it. -/
def plainProperties (message : Bytes) : Except Malformed (Bytes) :=
  let header := message.takeWhile (· != 0)
  match message.dropWhile (· != 0) with
  | [] => .error .malformedHeader
  | _ :: rest => if header.contains '@'.toUInt8 then .ok rest else .error .malformedHeader

/-- Whether a message has a binary header. -/
def isTagged (message : Bytes) : Bool :=
  mark.isPrefixOf message

/-- The properties of a message, in either form. -/
def properties (message : Bytes) : Except Malformed (Bytes) :=
  if isTagged message then taggedProperties message else plainProperties message

/-- The key and the value of an entry: the texts around its first `=`. -/
def entry? (bytes : Bytes) : Option (String × String) := do
  let text ← Text.ofUtf8? bytes
  let (key, value) ← Text.cutAt? '=' text.toList
  return (String.ofList key, String.ofList value)

/-- The entries of a block of properties, in order. -/
def entries (block : Bytes) : List (String × String) :=
  (block.splitOn 0).filterMap entry?

/-- The value of the last entry with a key. -/
def lastValue? (key : String) (entries : List (String × String)) : Option String :=
  (entries.reverse.find? (·.1 == key)).map (·.2)

/-- A value that every event has. -/
def required (key : String) (entries : List (String × String)) : Except Malformed String :=
  match lastValue? key entries with
  | some value => .ok value
  | none => .error (.missingField key)

/-- The event that a list of entries describes. -/
def ofEntries (entries : List (String × String)) : Except Malformed Uevent := do
  let action ← required "ACTION" entries
  let devpath ← required "DEVPATH" entries
  let subsystem ← required "SUBSYSTEM" entries
  return ⟨.ofName action, devpath, subsystem, lastValue? "DEVNAME" entries⟩

/-- The event that a message announces. -/
def decode (message : Bytes) : Except Malformed Uevent := do
  ofEntries (entries (← properties message))

end Uevent

end Hotplug
