import Hotplug.Failure
import Hotplug.Text.Duration
/-!
# Failures of rigs

Why a rig did not do its work.

## Main definitions

* `Hotplug.RigFailure`, `Hotplug.RigFailure.text`
-/

namespace Hotplug

/-- Why a rig did not do its work. -/
inductive RigFailure
  /-- The rig itself is not in order. -/
  | setup (message : String)
  /-- Something is not as it was expected to be. -/
  | assertion (message : String)
  /-- Nothing became ready within so many nanoseconds. -/
  | timeout (waited : Nat)
  /-- The library failed. -/
  | library (failure : Failure)
  deriving DecidableEq, Repr

/-- What to tell people. -/
def RigFailure.text : RigFailure → String
  | setup message => "harness error: " ++ message
  | assertion message => "assertion failed: " ++ message
  | timeout waited => "timeout after " ++ Duration.text waited
  | library failure => "portwatch error: " ++ failure.message

end Hotplug
