import Hotplug.Platform
/-!
# Systems without a backend

A platform that offers a backend of which every operation fails.

## Main definitions

* `Hotplug.Unsupported` and its platform.
-/

namespace Hotplug

/-- The state of a platform that supports nothing. -/
structure Unsupported where
  deriving DecidableEq, Repr

namespace Unsupported

/-- The system that the library runs on. -/
def system : String :=
  "linux"

/-- The failure of every operation. -/
def refusal (operation : String) : Failure :=
  .system (operation ++ " is not supported on " ++ system)

instance : Platform Unsupported where
  Origin := Unit
  Source := Empty
  Channel := Empty
  name := fun _ => "unsupported"
  enumerate := fun _ _ => Action.fail (refusal "Device enumeration")
  subscribe := fun _ _ => Action.fail (refusal "Device monitoring")
  unsubscribe := nofun
  drain := nofun
  sourceTarget := nofun
  openChannel := fun _ info => Action.fail (refusal ("Opening '" ++ info.path ++ "'"))
  closeChannel := nofun
  channelTarget := nofun
  read := nofun
  write := nofun
  configure := nofun
  reportDescriptor := nofun
  sendFeature := nofun
  getFeature := nofun
  native := {
    limit := none
    now := fun s => (0, s)
    sleep := fun _ s => s
    call := fun _ _ => return .timedOut
    patience := fun _ _ => 1
    output := fun _ _ => return .timedOut }

end Unsupported

end Hotplug
