import Hotplug.Failure
import Hotplug.Text.Quoted
/-!
# Malformed kernel data

Reasons why a message or an attribute from the kernel cannot be decoded.

## Main definitions

* `Hotplug.Malformed`, `Hotplug.Malformed.message`
* `Hotplug.Malformed.failure`: the same as a failure of the library.
-/

namespace Hotplug

/-- Why data from the kernel cannot be decoded. -/
inductive Malformed
  /-- The message is shorter than its fixed header. -/
  | truncated (size : Nat)
  /-- The header carries another magic number. -/
  | badMagic (magic : Nat)
  /-- The properties do not lie inside the message. -/
  | propertiesOutOfBounds (offset length size : Nat)
  /-- The message does not start with an action and a path. -/
  | malformedHeader
  /-- A property that every event has is missing. -/
  | missingField (name : String)
  /-- An attribute of a device has a value that makes no sense. -/
  | badAttribute (name value : String)
  deriving DecidableEq, Repr

namespace Malformed

/-- The short name of the reason. -/
def kind : Malformed → String
  | truncated _ => "truncated"
  | badMagic _ => "bad_magic"
  | propertiesOutOfBounds .. => "properties_out_of_bounds"
  | malformedHeader => "malformed_header"
  | missingField _ => "missing_field"
  | badAttribute .. => "attribute"

/-- What to tell people. -/
def message : Malformed → String
  | truncated size => "uevent message truncated (" ++ toString size ++ " bytes)"
  | badMagic magic => "bad libudev magic " ++ Number.hexMarked magic 8
  | propertiesOutOfBounds offset length size =>
    "uevent properties out of bounds (offset " ++ toString offset ++ ", length " ++
      toString length ++ ", message " ++ toString size ++ ")"
  | malformedHeader => "malformed uevent header"
  | missingField name => "uevent lacks " ++ name
  | badAttribute name value => "invalid sysfs attribute " ++ name ++ ": " ++ Text.quote value

/-- Malformed data counts as an invalid request. -/
def failure (reason : Malformed) : Failure :=
  .invalid reason.message

end Malformed

end Hotplug
